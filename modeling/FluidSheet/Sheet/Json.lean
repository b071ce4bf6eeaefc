import FluidSheet.Sheet.Basic
import FluidSheet.Json.Decode
import FluidSheet.Json.Reader
import FluidSheet.Json.Writer

-- What is absent or false is left out; unknown keys are passed over.

namespace FluidSheet

open Json Json.Decode

namespace Source

def json (s : Source) : Json :=
  .object ((s.file.map fun f => ("file", Json.string f)).toList ++
    (s.line.map fun n => ("line", Json.nat n.toNat)).toList)

end Source

def sourceMember (source : Option Source) : List (String × Json) :=
  (source.map fun s => ("source", s.json)).toList

def Declaration.members (d : Declaration) : List (String × Json) :=
  [("prop", .string d.prop), ("value", .string d.value)] ++
    (if d.important then [("important", .bool true)] else []) ++ sourceMember d.source

def Comment.members (c : Comment) : List (String × Json) :=
  [("text", .string c.text), ("before", .string c.before)] ++ sourceMember c.source

namespace Node

mutual
def json : Node → Json
  | .rule selector nodes source =>
    .object ([("type", .string "rule"), ("selector", .string selector), ("nodes", .array (jsonNodes nodes))] ++
      sourceMember source)
  | .atRule name params nodes source =>
    .object ([("type", .string "atrule"), ("name", .string name), ("params", .string params),
      ("nodes", .array (jsonNodes nodes))] ++ sourceMember source)
  | .declaration d => .object (("type", .string "decl") :: d.members)
  | .comment c => .object (("type", .string "comment") :: c.members)

def jsonNodes : List Node → List Json
  | [] => []
  | n :: rest => n.json :: jsonNodes rest
end

end Node

def Rule.json (r : Rule) : Json :=
  .object ([("selector", .string r.selector), ("nodes", .array (Node.jsonNodes r.nodes))] ++ sourceMember r.source)

def Sheet.json (s : Sheet) : Json :=
  .object ((s.file.map fun f => ("sourceFile", Json.string f)).toList ++
    [("nodes", .array (Node.jsonNodes s.nodes))])

namespace Decode

def sourceFields : List (Field Json Source) :=
  [⟨["file"], .free, fun j s => do return { s with file := ← option string j }⟩,
   ⟨["line"], .free, fun j s => do return { s with line := ← option word32 j }⟩]

def source (origin : Origin) (j : Json) : Except ReadError Source :=
  record origin "struct Source" sourceFields ⟨none, none⟩ j

def declarationFields (origin : Origin) : List (Field Json Declaration) :=
  [⟨["prop"], .required, fun j d => do return { d with prop := ← string j }⟩,
   ⟨["value"], .required, fun j d => do return { d with value := ← string j }⟩,
   ⟨["important"], .free, fun j d => do return { d with important := ← bool j }⟩,
   ⟨["source"], .free, fun j d => do return { d with source := ← option (source origin) j }⟩]

def commentFields (origin : Origin) : List (Field Json Comment) :=
  [⟨["text"], .required, fun j c => do return { c with text := ← string j }⟩,
   ⟨["before"], .free, fun j c => do return { c with before := ← string j }⟩,
   ⟨["source"], .free, fun j c => do return { c with source := ← option (source origin) j }⟩]

def ruleFields (origin : Origin) (nodes : Json → Except ReadError (List Node)) : List (Field Json Rule) :=
  [⟨["selector"], .required, fun j r => do return { r with selector := ← string j }⟩,
   ⟨["nodes"], .free, fun j r => do return { r with nodes := ← nodes j }⟩,
   ⟨["source"], .free, fun j r => do return { r with source := ← option (source origin) j }⟩]

def atRuleFields (origin : Origin) (nodes : Json → Except ReadError (List Node)) : List (Field Json AtRule) :=
  [⟨["name"], .required, fun j r => do return { r with name := ← string j }⟩,
   ⟨["params"], .free, fun j r => do return { r with params := ← string j }⟩,
   ⟨["nodes"], .free, fun j r => do return { r with nodes := ← nodes j }⟩,
   ⟨["source"], .free, fun j r => do return { r with source := ← option (source origin) j }⟩]

inductive Kind where
  | rule
  | atRule
  | declaration
  | comment
deriving DecidableEq, Repr

def kindNames : List String := ["rule", "atrule", "decl", "comment"]

def kindOfName : String → Except ReadError Kind
  | "rule" => .ok .rule
  | "atrule" => .ok .atRule
  | "decl" => .ok .declaration
  | "comment" => .ok .comment
  | s => .error (.mismatch (.unknownVariant s kindNames))

def kindOfDraft : Draft → Except ReadError Kind
  | .string s => kindOfName s
  | d => do
    let found ← ofFault d.found
    throw (.mismatch (.wrongType found "variant identifier"))

-- Once a node is held in full, its kind may also be given by its place in the list of kinds.
def kindOfJson : Json → Except ReadError Kind
  | .string s => kindOfName s
  | .number (.whole n) =>
    if n < 0 then .error (.mismatch (.wrongType (.whole n) "variant identifier"))
    else match [Kind.rule, .atRule, .declaration, .comment][n.toNat]? with
      | some kind => .ok kind
      | none => .error (.mismatch (.wrongValue (.whole n) "variant index 0 <= i < 4"))
  | j => wrong j "variant identifier"

def kindField : String := "type"

def twice : ReadError := .mismatch (.duplicate kindField)
def untold : ReadError := .mismatch (.missing kindField)
def noNode (found : Found) : ReadError := .mismatch (.wrongType found "internally tagged enum Node")

def splitMembers (kind : Option Kind) (content : List (String × Json)) :
    List (String × Json) → Except ReadError (Kind × Json)
  | [] =>
    match kind with
    | some kind => .ok (kind, .object content.reverse)
    | none => .error untold
  | (k, v) :: rest => do
    if k = kindField then
      if kind.isSome then throw twice
      let kind ← kindOfJson v
      splitMembers (some kind) content rest
    else splitMembers kind ((k, v) :: content) rest

def split : Json → Except ReadError (Kind × Json)
  | .object members => splitMembers none [] members
  | .array [] => .error untold
  | .array (tag :: items) => do return (← kindOfJson tag, .array items)
  | j => .error (noNode j.found)

def content (nodes : Json → Except ReadError (List Node)) (kind : Kind) (j : Json) : Except ReadError Node :=
  match kind with
  | .rule => do
    let r ← record .buffer "struct Rule" (ruleFields .buffer nodes) ⟨"", [], none⟩ j
    return r.node
  | .atRule => do
    let r ← record .buffer "struct AtRule" (atRuleFields .buffer nodes) ⟨"", "", [], none⟩ j
    return r.node
  | .declaration => do
    let d ← record .buffer "struct Declaration" (declarationFields .buffer) ⟨"", "", false, none⟩ j
    return .declaration d
  | .comment => do
    let c ← record .buffer "struct Comment" (commentFields .buffer) ⟨"", "", none⟩ j
    return .comment c

-- Every level of nodes is a level of the document, so the depth it is held to is fuel enough.
def heldNode (depth : Nat) (j : Json) : Except ReadError Node :=
  match depth with
  | 0 => .error (.fault .malformed)
  | depth + 1 => do
    let (kind, rest) ← split j
    content (list (heldNode depth)) kind rest

-- Splits the kind off a node while its text is being read; all else is kept for later.
def readMembers (depth : Nat) (kind : Option Kind) (content : List (String × Json)) :
    List (Draft × Draft) → Except ReadError (Kind × Json)
  | [] =>
    match kind with
    | some kind => .ok (kind, .object content.reverse)
    | none => .error untold
  | (k, v) :: rest => do
    let key ← Access.draft.key k
    if key = kindField then
      if kind.isSome then throw twice
      let kind ← kindOfDraft v
      readMembers depth (some kind) content rest
    else
      let j ← ofFault (v.toJson depth)
      readMembers depth kind ((key, j) :: content) rest

def read (depth : Nat) : Draft → Except ReadError (Kind × Json)
  | .object members => readMembers depth none [] members
  | .array [] => .error untold
  | .array (tag :: items) => do
    let kind ← kindOfDraft tag
    let items ← ofFault (Draft.toItems depth items)
    return (kind, .array items)
  | d => do throw (noNode (← ofFault d.found))

def node (depth : Nat) (d : Draft) : Except ReadError Node :=
  match d, depth with
  | .object _, 0 | .array _, 0 => .error (.fault .malformed)
  | _, _ => do
    let (kind, rest) ← read (depth - 1) d
    content (list (heldNode maxDepth)) kind rest

def nodes (depth : Nat) : Draft → Except ReadError (List Node)
  | .array items =>
    match depth with
    | 0 => .error (.fault .malformed)
    | depth + 1 => items.mapM (node depth)
  | d => do throw (.mismatch (.wrongType (← ofFault d.found) "a sequence"))

def plain (depth : Nat) (decode : Json → Except ReadError α) (d : Draft) : Except ReadError α :=
  match d with
  | .array _ => decode (.array [])
  | .object _ => decode (.object [])
  | d => do decode (← ofFault (d.toJson depth))

def draftRecord (origin : Origin) (name : String) (fields : List (Field Draft σ)) (init : σ) :
    Draft → Except ReadError σ
  | .object members => Json.ofMembers Access.draft fields init members
  | .array items => do
    let (state, extra) ← takeItems (lengthPhrase name fields.length) 0 init fields items
    match extra with
    | [] => return state
    | .broken fault _ :: _ => throw (.fault fault)
    | _ => throw (origin.tooLong items.length fields.length)
  | d => do throw (.mismatch (.wrongType (← ofFault d.found) name))

def sheetFields (depth : Nat) : List (Field Draft Sheet) :=
  [⟨["sourceFile"], .free, fun d s => do return { s with file := ← plain depth (option string) d }⟩,
   ⟨["nodes"], .free, fun d s => do return { s with nodes := ← nodes depth d }⟩]

def sheet (origin : Origin) (d : Draft) : Except ReadError Sheet :=
  draftRecord origin "struct Stylesheet" (sheetFields (maxDepth - 1)) ⟨none, []⟩ d

end Decode

-- A document at hand holds each key once, in order; a text is read as it stands.
def Sheet.ofJson (j : Json) : Except ReadError Sheet := Decode.sheet .value (.ofJson j.sorted)

def Sheet.ofText (s : String) : Except ReadError Sheet := do
  let page := Page.ofText s
  let sheet ← Decode.sheet .text page.body
  if page.trailing then throw (.fault .malformed)
  return sheet

def Node.ofJson (j : Json) : Except ReadError Node := Decode.node maxDepth (.ofJson j.sorted)

def nodesOfJson (j : Json) : Except ReadError (List Node) := Decode.nodes maxDepth (.ofJson j.sorted)

def Rule.ofJson (j : Json) : Except ReadError Rule :=
  Decode.record .value "struct Rule"
    (Decode.ruleFields .value fun nodes => Decode.nodes maxDepth (.ofJson nodes)) ⟨"", [], none⟩ j.sorted

end FluidSheet
