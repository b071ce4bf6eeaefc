import FluidSheet.Log.Directive

namespace FluidSheet.Log

structure Filter where
  directives : List Directive
deriving DecidableEq, Repr

namespace Filter

def split : List Char → List (List Char)
  | [] => [[]]
  | c :: rest =>
    if c = ',' then [] :: split rest
    else
      match split rest with
      | part :: parts => (c :: part) :: parts
      | [] => [[c]]

-- A text without directives lets errors through; a faulty one is no filter.
def ofText? (s : String) : Option Filter := do
  let directives ← ((split s.toList).filter (!·.isEmpty)).mapM Directive.ofText?
  return ⟨if directives.isEmpty then [⟨"", none, none, some .error⟩] else directives⟩

def standard (t : Threshold) : Filter :=
  ⟨[⟨"", none, none, some .warn⟩, ⟨"pxv_cli", none, none, t⟩, ⟨"pxv_core", none, none, t⟩,
    ⟨"pxv_model", none, none, t⟩]⟩

def latest : List Directive → List Directive
  | [] => []
  | d :: rest => if rest.any d.isSameScope then latest rest else d :: latest rest

def plain (f : Filter) : List Directive := latest (f.directives.filter (·.isPlain))

def following (f : Filter) : List Directive := latest (f.directives.filter (·.isScoped))

def highest (directives : List Directive) : Threshold := (directives.map (·.threshold)).foldl higher none

def followingTop (f : Filter) : Threshold := highest (f.directives.filter (·.isScoped))

-- Before anything else is asked, a level has to be let through somewhere. Values of
-- fields are only known within their spans, so these must come through then.
def top (f : Filter) : Threshold :=
  if f.directives.any (·.testsValue) then some .trace else highest f.directives

-- What directives are asked about. `event`: of spans, names of fields do not matter here.
structure Subject where
  target : String
  level : Level
  event : Bool
  fields : List String

def Subject.ofEvent (e : Event) : Subject := ⟨eventTarget e, e.level, true, "message" :: e.fields.map (·.1)⟩

def Subject.ofSpan (s : Span) : Subject := ⟨s.target, s.level, false, [s.field.1]⟩

def concerns (d : Directive) (s : Subject) : Bool :=
  d.startsTarget s.target && (!s.event || d.field.all fun t => s.fields.contains t.name)

-- A longer target is closer, then a field makes it so, and the name of the field decides.
def isCloser (a b : Directive) : Bool :=
  b.target.length < a.target.length ||
    (a.target.length = b.target.length &&
      match a.field, b.field with
      | some x, some y => y.name < x.name
      | some _, none => true
      | none, _ => false)

def closest (best : Option Directive) : List Directive → Option Directive
  | [] => best
  | d :: rest =>
    match best with
    | none => closest (some d) rest
    | some b => closest (some (if isCloser d b then d else b)) rest

def plainlyEnables (f : Filter) (s : Subject) : Bool :=
  (closest none (f.plain.filter (concerns · s))).any fun d => passes d.threshold s.level

def followers (f : Filter) (s : Span) : List Directive :=
  f.following.filter fun d =>
    d.startsTarget s.target && d.span.all (· = s.name) && d.field.all (·.name = s.field.1)

def scopeEnables (f : Filter) (scope : List Threshold) (level : Level) : Bool :=
  passes f.followingTop level && scope.any (passes · level)

def enablesSpan (f : Filter) (scope : List Threshold) (s : Span) : Bool :=
  passes f.top s.level &&
    (!(f.followers s).isEmpty || f.plainlyEnables (.ofSpan s) || f.scopeEnables scope s.level)

def enablesEvent (f : Filter) (scope : List Threshold) (e : Event) : Bool :=
  passes f.top e.level && (f.plainlyEnables (.ofEvent e) || f.scopeEnables scope e.level)

def entered (f : Filter) (s : Span) : List Threshold :=
  match f.followers s with
  | [] => []
  | followers => [highest (followers.filter fun d => d.field.all (·.holds s.field))]

def enter (f : Filter) (scope : List Threshold) : List Span → List Span × List Threshold
  | [] => ([], scope)
  | s :: rest =>
    if f.enablesSpan scope s then
      let (told, scope) := f.enter (scope ++ f.entered s) rest
      (s :: told, scope)
    else f.enter scope rest

def admit? (f : Filter) (r : Record) : Option (List Span) :=
  let (told, scope) := f.enter [] r.spans
  if f.enablesEvent scope r.event then some told else none

end Filter
end FluidSheet.Log
