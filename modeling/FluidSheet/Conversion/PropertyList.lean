import FluidSheet.Text.Occurs

-- After "!" a test excludes, and excluding wins.

namespace FluidSheet

inductive PropertyTest where
  | equals (text : List Char)
  | contains (text : List Char)
  | startsWith (text : List Char)
  | endsWith (text : List Char)
deriving DecidableEq, Repr

namespace PropertyTest

def plainText (cs : List Char) : Bool := !cs.isEmpty && !cs.contains '*'

def plainHead (cs : List Char) : Bool := plainText cs && !cs.contains '!'

-- The forms are tried in this order; a body that fits none of them is no test.
def ofBody? (body : List Char) : Option PropertyTest :=
  if 3 ≤ body.length ∧ body.head? = some '*' ∧ body.getLast? = some '*' then
    some (.contains (body.drop 1).dropLast)
  else if body.head? = some '*' then
    if plainText (body.drop 1) then some (.endsWith (body.drop 1)) else none
  else if body.getLast? = some '*' then
    if plainHead body.dropLast then some (.startsWith body.dropLast) else none
  else if plainHead body then some (.equals body) else none

def accepts (test : PropertyTest) (name : List Char) : Bool :=
  match test with
  | .equals text => name = text
  | .contains text => Text.occursIn text name
  | .startsWith text => text.isPrefixOf name
  | .endsWith text => text.isSuffixOf name

end PropertyTest

structure PropertyList where
  included : List PropertyTest
  excluded : List PropertyTest
  everything : Bool
  unfiltered : Bool
deriving DecidableEq, Repr

namespace PropertyList

def everyProperty : List Char := ['*']

def includedTest? (entry : List Char) : Option PropertyTest :=
  if entry.head? = some '!' then none else PropertyTest.ofBody? entry

def excludedTest? (entry : List Char) : Option PropertyTest :=
  if entry.head? = some '!' then PropertyTest.ofBody? (entry.drop 1) else none

def ofEntries (entries : List String) : PropertyList :=
  let entries := entries.map String.toList
  let tests := entries.filter (· ≠ everyProperty)
  { included := tests.filterMap includedTest?
    excluded := tests.filterMap excludedTest?
    everything := entries.contains everyProperty
    unfiltered := entries = [everyProperty] }

def selects (l : PropertyList) (name : String) : Bool :=
  l.unfiltered ||
    ((l.everything || l.included.any (·.accepts name.toList)) && !l.excluded.any (·.accepts name.toList))

end PropertyList
end FluidSheet
