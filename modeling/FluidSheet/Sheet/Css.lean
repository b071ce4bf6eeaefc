import FluidSheet.Sheet.Basic

-- A comment that stood on the line of the node before it stays there.

namespace FluidSheet.Css

def indent (depth : Nat) : List Char := List.replicate (2 * depth) ' '

def ofDeclaration (d : Declaration) : List Char :=
  d.prop.toList ++ ':' :: ' ' :: d.value.toList ++
    (if d.important then " !important".toList else []) ++ [';']

def ofComment (c : Comment) : List Char := "/* ".toList ++ Text.trimChars c.text.toList ++ " */".toList

-- Whether a node continues the line of the one before it.
def continues : Node → Bool
  | .comment c => c.sameLine
  | _ => false

def atRuleHead (name params : String) : List Char :=
  '@' :: name.toList ++ (if params.isEmpty then [] else ' ' :: params.toList)

mutual
def ofNode (depth : Nat) : Node → List Char
  | .rule selector nodes _ => selector.toList ++ " \x7b".toList ++ ofBody depth nodes
  | .atRule name params nodes _ =>
    match nodes with
    | [] => atRuleHead name params ++ [';']
    | n :: rest => atRuleHead name params ++ " \x7b".toList ++ ofBody depth (n :: rest)
  | .declaration d => ofDeclaration d
  | .comment c => ofComment c

def ofBody (depth : Nat) : List Node → List Char
  | [] => '\n' :: indent depth ++ ['}']
  | n :: rest => '\n' :: indent (depth + 1) ++ ofNode (depth + 1) n ++ ofRest (depth + 1) rest ++ '\n' :: indent depth ++ ['}']

def ofRest (depth : Nat) : List Node → List Char
  | [] => []
  | n :: rest =>
    (if continues n then [' '] else '\n' :: indent depth) ++ ofNode depth n ++ ofRest depth rest
end

def ofSheet : List Node → List Char
  | [] => []
  | n :: rest => ofNode 0 n ++ ofRest 0 rest ++ ['\n']

end FluidSheet.Css

namespace FluidSheet

def Node.css (n : Node) : String := String.ofList (Css.ofNode 0 n)

def Sheet.css (s : Sheet) : String := String.ofList (Css.ofSheet s.nodes)

end FluidSheet
