import FluidSheet.Text.Cells

-- A text is measured from its end: what comes after a character may be drawn together with it.

namespace FluidSheet.Cells

-- `joined`: a joiner stands between.
inductive Follower where
  | none
  | lineFeed
  | alef
  | lamed (joined : Bool)
  | khmerLetter
  | bugineseYa (joined : Bool)
  | bugineseSyllable
  | tifinaghLetter (joined : Bool)
  | tifinaghPair
  | lisuTone
  | turkicVowel (joined : Bool)
  | kiratE
  | kiratAi
  | emoji
  | modifier
  -- Flags are pairs of indicators: how they pair up matters only before a joiner.
  | indicator
  | indicators
  | oneIndicator
  | evenIndicators
  | oddIndicators
  | joiner
  | joinedKeycap
  | tags (letters : Nat)
  | tagDigits (digits : Nat)
deriving DecidableEq, Repr

structure Ahead where
  follower : Follower
  asEmoji : Bool
  asText : Bool
  asWide : Bool
deriving DecidableEq, Repr

namespace Ahead

def nothing : Ahead := ⟨.none, false, false, false⟩

def plain (f : Follower) : Ahead := ⟨f, false, false, false⟩

end Ahead

namespace Follower

def isLetter : Follower → Bool
  | .alef | .lamed _ | .khmerLetter | .bugineseYa _ | .bugineseSyllable | .tifinaghLetter _ | .tifinaghPair
  | .lisuTone | .turkicVowel _ => true
  | _ => false

def join : Follower → Follower
  | .lamed _ => .lamed true
  | .bugineseYa _ => .bugineseYa true
  | .tifinaghLetter _ => .tifinaghLetter true
  | .turkicVowel _ => .turkicVowel true
  | f => f

def isJoined : Follower → Bool
  | .joiner | .joinedKeycap => true
  | _ => false

end Follower

def isBetween (c : Char) (pairs : List (Nat × Nat)) : Bool :=
  pairs.any fun (first, last) => first ≤ c.toNat && c.toNat ≤ last

def isArabicLam (c : Char) : Bool :=
  isBetween c [(0x644, 0x644), (0x6b5, 0x6b8), (0x76a, 0x76a), (0x8a6, 0x8a6), (0x8c7, 0x8c7)]

def isTifinagh (c : Char) : Bool := isBetween c [(0x2d31, 0x2d65), (0x2d6f, 0x2d6f)]

def isUnseen (c : Char) : Bool :=
  isBetween c [(0x34f, 0x34f), (0x17b4, 0x17b5), (0x180b, 0x180d), (0x180f, 0x180f), (0x200d, 0x200d),
    (0xfe00, 0xfe0f), (0xe0100, 0xe01ef)]

-- What Arabic letters join across: marks, and format characters that do not say otherwise.
def isTransparent (c : Char) : Bool :=
  isJoining c && (Text.isOf [.nonspacingMark, .enclosingMark, .format] c || inRuns Recent.extendingRuns c.toNat) &&
    !isBetween c [(0x605, 0x605), (0x890, 0x891), (0x8e2, 0x8e2), (0x180e, 0x180e), (0x200c, 0x200d),
      (0x2066, 0x2069)]

def takesSelector (c : Char) : Bool :=
  (inRuns Property.emojiRuns c.toNat && !inRuns Property.emojiPresentationRuns c.toNat && !isIndicator c) ||
    inRuns textualRuns c.toNat || isBetween c [(0x1f21a, 0x1f21a), (0x1f22f, 0x1f22f)]

def isQuote (c : Char) : Bool := isBetween c [(0x2018, 0x2019), (0x201c, 0x201d)]

def followerOf (c : Char) : Follower :=
  let n := c.toNat
  if n = 0x5dc then .lamed false
  else if isBetween c [(0x622, 0x623), (0x625, 0x625), (0x627, 0x627), (0x671, 0x673), (0x675, 0x675),
    (0x773, 0x774), (0x870, 0x882)] then .alef
  else if isBetween c [(0x1780, 0x1782), (0x1784, 0x1787), (0x1789, 0x178c), (0x178e, 0x1793),
    (0x1795, 0x1798), (0x179b, 0x179d), (0x17a0, 0x17a0), (0x17a2, 0x17a2), (0x17a7, 0x17a7),
    (0x17ab, 0x17ac), (0x17af, 0x17af)] then .khmerLetter
  else if n = 0x1a10 then .bugineseYa false
  else if isTifinagh c then .tifinaghLetter false
  else if n = 0xa4fc ∨ n = 0xa4fd then .lisuTone
  else if n = 0x10c03 then .turkicVowel false
  else if n = 0x16d67 then .kiratE
  else if n = 0x16d68 then .kiratAi
  else if isIndicator c then .indicator
  else if isModifier c then .modifier
  else if isPresented c then .emoji
  else .none

def joinedEmoji? (follower : Follower) (c : Char) : Option (Int × Follower) :=
  let n := c.toNat
  let digit := 0xe0030 ≤ n && n ≤ 0xe0039
  let letter := 0xe0061 ≤ n && n ≤ 0xe007a
  match follower with
  | .modifier =>
    if inRuns Property.emojiModifierBaseRuns n then some (0, .emoji)
    else if n = 0x200d then some (0, .joiner) else none
  | .emoji => if n = 0x200d then some (0, .joiner) else none
  | .indicator => if isIndicator c then some (1, .indicators) else none
  | .indicators =>
    if isIndicator c then some (1, .indicators) else if n = 0x200d then some (0, .joiner) else none
  | .joiner =>
    if n = 0x20e3 then some (0, .joinedKeycap)
    else if isIndicator c then some (1, .oneIndicator)
    else if isModifier c then some (0, .modifier)
    else if n = 0xe007f then some (0, .tags 0)
    else if isPresented c then some (0, .emoji)
    else none
  | .oneIndicator => if isIndicator c then some (-1, .evenIndicators) else none
  | .oddIndicators =>
    if isIndicator c then some (-1, .evenIndicators) else if n = 0x200d then some (0, .joiner) else none
  | .evenIndicators =>
    if isIndicator c then some (3, .oddIndicators) else if n = 0x200d then some (0, .joiner) else none
  | .tags letters =>
    if letter && letters < 6 then some (0, .tags (letters + 1))
    else if digit && letters < 5 then some (0, .tagDigits 1)
    else if n = 0x1f3f4 && 3 ≤ letters then some (0, .emoji)
    else none
  | .tagDigits digits =>
    if digit && digits < 3 then some (0, .tagDigits (digits + 1))
    else if n = 0x1f3f4 && digits = 3 then some (0, .emoji)
    else none
  | _ => none

def joinedLetter? (follower : Follower) (c : Char) : Option (Int × Follower) :=
  let n := c.toNat
  match follower with
  | .alef => if isArabicLam c then some (0, .none) else if isTransparent c then some (0, .alef) else none
  | .lamed true => if n = 0x5d0 then some (0, .none) else none
  | .khmerLetter => if n = 0x17d2 then some (-1, .none) else none
  | .bugineseYa true => if n = 0x1a17 then some (0, .bugineseSyllable) else none
  | .bugineseSyllable => if n = 0x1a15 then some (0, .none) else none
  | .tifinaghLetter joined =>
    if c = tifinaghJoiner then some (1, .tifinaghPair)
    else if joined && isTifinagh c then some (0, .none) else none
  | .tifinaghPair => if isTifinagh c then some (-1, .none) else none
  | .lisuTone => if 0xa4f8 ≤ n && n ≤ 0xa4fb then some (0, .none) else none
  | .turkicVowel true => if n = 0x10c32 then some (0, .none) else none
  | .kiratE =>
    if n = 0x16d63 || n = 0x16d69 then some (0, .none)
    else if n = 0x16d67 then some (0, .kiratAi)
    else if n = 0x16d68 then some (1, .kiratE)
    else none
  | .kiratAi => if n = 0x16d63 then some (0, .none) else none
  | _ => none

def unseen? (follower : Follower) (c : Char) : Option (Int × Follower) :=
  if !follower.isLetter || follower = .alef then none
  else if c = '\u200d' then some (0, follower.join)
  else if isUnseen c then some (0, follower)
  else none

def alone (c : Char) : Int × Ahead := (ofChar c, .plain (followerOf c))

-- Letters are still joined across selectors.
def dropEmoji (a : Ahead) : Ahead := if a.follower.isLetter then { a with asEmoji := false } else .nothing
def dropText (a : Ahead) : Ahead := if a.follower.isLetter then { a with asText := false } else .nothing
def dropWide (a : Ahead) : Ahead := if a.follower.isLetter then { a with asWide := false } else .nothing

def selector? (c : Char) (a : Ahead) : Option Ahead :=
  let kept := if a.follower.isLetter then a else .nothing
  if c = '\ufe0f' then
    some (if a.follower.isLetter || a.follower.isJoined then { a with asEmoji := true } else { kept with asEmoji := true })
  else if c = '\ufe0e' then some { kept with asText := true }
  else if c = '\ufe01' then some { kept with asWide := true }
  else none

def joined (a : Ahead) (c : Char) : Int × Ahead :=
  if a.asEmoji || a.asText || a.asWide then alone c
  else
    match unseen? a.follower c <|> joinedLetter? a.follower c <|> joinedEmoji? a.follower c with
    | some (cells, follower) => (cells, .plain follower)
    | none => alone c

def behindSelector (a : Ahead) (c : Char) : Int × Ahead :=
  match selector? c a with
  | some ahead => (0, ahead)
  | none =>
    if a.asText then
      if inRuns textualRuns c.toNat then (1, .nothing) else joined (dropText a) c
    else if a.asWide then
      if isQuote c then (2, .nothing) else joined (dropWide a) c
    else joined a c

def step (c : Char) (a : Ahead) : Int × Ahead :=
  if a.asEmoji && takesSelector c then (if a.follower.isJoined then 0 else 2, .plain .emoji)
  else
    let a := if a.asEmoji then dropEmoji a else a
    if c = '\n' then (1, .plain .lineFeed)
    else if c = '\r' && a = .plain .lineFeed then (0, .nothing)
    else if c.toNat ≤ 0xa0 then (1, .nothing)
    else behindSelector a c

def measure : List Char → Int × Ahead
  | [] => (0, .nothing)
  | c :: rest =>
    let (cells, ahead) := measure rest
    let (more, ahead) := step c ahead
    (cells + more, ahead)

def ofChars (cs : List Char) : Nat := (measure cs).1.toNat

end FluidSheet.Cells
