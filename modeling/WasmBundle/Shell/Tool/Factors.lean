import WasmBundle.Shell.Tool.Lines

/-!
# Prime factors

The tool that takes numbers apart into primes. Small primes are tried one after another; what is
left is told to be prime by powers of some bases, or taken apart with a sequence that must repeat
itself sooner modulo a factor.
-/

namespace WasmBundle.Shell.Factors

open Running Tool

def powerMod (base : Nat) (exponent modulus : Nat) : Nat → Nat
  | 0 => 1 % modulus
  | limit + 1 =>
    if exponent = 0 then 1 % modulus
    else
      let half := powerMod (base * base % modulus) (exponent / 2) modulus limit
      if exponent % 2 = 1 then half * base % modulus else half

/-- Whether squaring a number leads to a number of which one more is divided by the modulus. -/
def reachesEnd (modulus : Nat) : Nat → Nat → Bool
  | 0, _ => false
  | limit + 1, x => x + 1 == modulus || reachesEnd modulus limit (x * x % modulus)

/-- An odd part of a number, and how many times it was halved. -/
def halved : Nat → Nat → Nat × Nat
  | 0, n => (n, 0)
  | limit + 1, n =>
    if n % 2 = 0 ∧ 0 < n then
      let (m, k) := halved limit (n / 2)
      (m, k + 1)
    else (n, 0)

def bases : List Nat := [2, 3, 5, 7, 11, 13, 17, 19, 23, 29, 31, 37]

def isPrime (n : Nat) : Bool :=
  if n < 2 then false
  else if bases.contains n then true
  else if bases.any fun p => n % p == 0 then false
  else
    let (odd, times) := halved (n.log2 + 1) (n - 1)
    bases.all fun b =>
      let x := powerMod b odd n (n.log2 + 2)
      x == 1 || reachesEnd n times x

/-- Follows a sequence at two paces until both numbers agree modulo a factor. -/
def follow (n shift : Nat) : Nat → Nat → Nat → Option Nat
  | 0, _, _ => none
  | limit + 1, slow, fast =>
    let step := fun (x : Nat) => (x * x + shift) % n
    let slow := step slow
    let fast := step (step fast)
    let d := Nat.gcd (max slow fast - min slow fast) n
    if d = 1 then follow n shift limit slow fast
    else if d = n then none
    else some d

def findFactor (n : Nat) : Nat → Nat → Option Nat
  | 0, _ => none
  | limit + 1, shift =>
    match follow n shift 1000000 2 2 with
    | some d => some d
    | none => findFactor n limit (shift + 1)

def split : Nat → Nat → List Nat
  | 0, n => [n]
  | limit + 1, n =>
    if n < 2 then []
    else if isPrime n then [n]
    else
      match findFactor n 20 1 with
      | some d => split limit d ++ split limit (n / d)
      | none => [n]

/-- The factors of a number from a divisor on, as far as divisors are tried. -/
def divideFrom : Nat → Nat → Nat → List Nat × Nat
  | 0, _, n => ([], n)
  | limit + 1, d, n =>
    if n < d * d then if n < 2 then ([], 1) else ([n], 1)
    else if n % d = 0 then
      let (l, rest) := divideFrom limit d (n / d)
      (d :: l, rest)
    else divideFrom limit (if d = 2 then 3 else d + 2) n

/-- The prime factors of a number, the least one first. -/
def factorsOf (n : Nat) : List Nat :=
  let (l, rest) := divideFrom 3000 2 n
  l ++ (split 200 rest).mergeSort

def powersOf (l : List Nat) : List (Nat × Nat) :=
  (l.splitBy (· == ·)).filterMap fun run => run.head?.map fun p => (p, run.length)

def shown (withPowers : Bool) (n : Nat) : String :=
  let l := factorsOf n
  let texts :=
    if withPowers then
      (powersOf l).map fun (p, k) => toString p ++ if k = 1 then "" else "^" ++ toString k
    else l.map toString
  String.join ((toString n ++ ":") :: texts.map (" " ++ ·))

/-- The number that a word is, with blanks and a sign before it. -/
def number? (word : String) : Option Nat :=
  match word.toList.dropWhile (· = ' ') with
  | '+' :: rest => Numeral.count? (String.ofList rest)
  | rest => Numeral.count? (String.ofList rest)

def waitingBound : Nat := Nat.pow 2 127

/-- Shows the factors of words that are numbers; the status. -/
def tellAll (name : String) (withPowers : Bool) (words : List String) : Running Nat := do
  let status ← forEach (fun (word : String) => do
      match number? word with
      | some n =>
        if waitingBound ≤ n then print (shown withPowers n ++ "\n")
        return 0
      | none => complain name (quotedText word ++ " is not a valid positive integer")) words
  let numbers := (words.filterMap number?).filter (· < waitingBound)
  print (String.join (numbers.map fun n => shown withPowers n ++ "\n"))
  return status

def factor : Tool :=
  withOptions { flags := ['h'], long := [("exponents", 'h')] } 1 fun _ name i => do
    if i.operands.isEmpty then
      match ← readAll 0 with
      | .error e => complain name ("error reading input: " ++ e.reason)
      | .ok b =>
        let isGap := fun (c : Char) => c = ' ' ∨ c = '\t' ∨ c = '\n'
        let words := ((chars b).splitBy fun a b => decide (isGap a) == decide (isGap b)).filter
          fun w => !(w.any fun c => decide (isGap c))
        tellAll name (i.has 'h') (words.map String.ofList)
    else tellAll name (i.has 'h') i.operands

end WasmBundle.Shell.Factors
