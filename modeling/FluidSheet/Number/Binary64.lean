-- Magnitudes are whole multiples of 2^-1074, so that each operation rounds one exact fraction once.

namespace FluidSheet

inductive Binary64 where
  | nan
  | infinite (negative : Bool)
  | finite (negative : Bool) (quanta : Nat)
deriving DecidableEq, Repr, Inhabited

namespace Binary64

def unit : Nat := Nat.pow 2 1074

-- The first magnitude, in quanta, that no finite number reaches.
def limit : Nat := Nat.pow 2 2098

def roundHalfEven (num den : Nat) : Nat :=
  let whole := num / den
  let twice := 2 * (num % den)
  if twice < den then whole
  else if den < twice then whole + 1
  else if whole % 2 = 0 then whole else whole + 1

-- 53 significant bits, and never less than one quantum.
def spacing (quanta : Nat) : Nat := Nat.pow 2 (quanta.log2 - 52)

def nearest (negative : Bool) (num den : Nat) : Binary64 :=
  let step := spacing (num / den)
  let quanta := roundHalfEven num (den * step) * step
  if quanta < limit then .finite negative quanta else .infinite negative

def zero : Binary64 := .finite false 0
def one : Binary64 := .finite false unit

def ofNat (n : Nat) : Binary64 := nearest false (n * unit) 1

def ofInt : Int → Binary64
  | .ofNat n => ofNat n
  | .negSucc n => nearest true ((n + 1) * unit) 1

instance (n : Nat) : OfNat Binary64 n := ⟨ofNat n⟩

def isFinite : Binary64 → Bool
  | .finite .. => true
  | _ => false

def isZero : Binary64 → Bool
  | .finite _ 0 => true
  | _ => false

def neg : Binary64 → Binary64
  | .nan => .nan
  | .infinite s => .infinite (!s)
  | .finite s q => .finite (!s) q

def abs : Binary64 → Binary64
  | .nan => .nan
  | .infinite _ => .infinite false
  | .finite _ q => .finite false q

def lt : Binary64 → Binary64 → Bool
  | .nan, _ | _, .nan => false
  | .infinite s, .infinite t => s && !t
  | .infinite s, .finite .. => s
  | .finite .., .infinite t => !t
  | .finite false p, .finite false q => p < q
  | .finite true p, .finite true q => q < p
  | .finite true p, .finite false q => p != 0 || q != 0
  | .finite false _, .finite true _ => false

def mul : Binary64 → Binary64 → Binary64
  | .nan, _ | _, .nan => .nan
  | .infinite s, .infinite t => .infinite (s != t)
  | .infinite s, .finite t q | .finite t q, .infinite s => if q = 0 then .nan else .infinite (s != t)
  | .finite s p, .finite t q => nearest (s != t) (p * q) unit

def div : Binary64 → Binary64 → Binary64
  | .nan, _ | _, .nan => .nan
  | .infinite _, .infinite _ => .nan
  | .infinite s, .finite t _ => .infinite (s != t)
  | .finite s _, .infinite t => .finite (s != t) 0
  | .finite s p, .finite t q =>
    if q = 0 then (if p = 0 then .nan else .infinite (s != t))
    else nearest (s != t) (p * unit) q

instance : Mul Binary64 := ⟨mul⟩
instance : Div Binary64 := ⟨div⟩
instance : Neg Binary64 := ⟨neg⟩

def roundAway : Binary64 → Binary64
  | .finite s q => .finite s ((2 * q + unit) / (2 * unit) * unit)
  | x => x

-- Each product is rounded, so the order matters once the powers stop being exact.
def powFrom (acc base : Binary64) (n : Nat) : Binary64 :=
  if n = 0 then acc
  else
    let acc := if n % 2 = 1 then acc * base else acc
    if n / 2 = 0 then acc else powFrom acc (base * base) (n / 2)
termination_by n

-- Exponents are taken modulo 2^32 as signed numbers.
def pow (base : Binary64) (n : Nat) : Binary64 :=
  let n := n % Nat.pow 2 32
  if n < Nat.pow 2 31 then powFrom one base n else one / powFrom one base (Nat.pow 2 32 - n)

end Binary64
end FluidSheet
