import SecretProjection.Text.Digits

/-!
# Durations

A duration is a whole number of nanoseconds, never negative.  Its text shows it in the largest of
four units in which it has a whole part, with as many decimals as it needs.
-/

namespace SecretProjection

structure Duration where
  nanoseconds : Nat
  deriving DecidableEq, Repr

namespace Duration

/-! ## Units -/

def perSecond : Nat := 1000000000

def perMillisecond : Nat := 1000000

def zero : Duration := ⟨0⟩

def ofSeconds (seconds : Nat) : Duration := ⟨seconds * perSecond⟩

def ofMilliseconds (milliseconds : Nat) : Duration := ⟨milliseconds * perMillisecond⟩

def seconds (d : Duration) : Nat := d.nanoseconds / perSecond

def subsecond (d : Duration) : Nat := d.nanoseconds % perSecond

instance : Inhabited Duration := ⟨zero⟩

/-! ## Order and sum -/

instance : LE Duration := ⟨fun a b => a.nanoseconds ≤ b.nanoseconds⟩

instance : LT Duration := ⟨fun a b => a.nanoseconds < b.nanoseconds⟩

instance (a b : Duration) : Decidable (a ≤ b) :=
  inferInstanceAs (Decidable (a.nanoseconds ≤ b.nanoseconds))

instance (a b : Duration) : Decidable (a < b) :=
  inferInstanceAs (Decidable (a.nanoseconds < b.nanoseconds))

instance : Add Duration := ⟨fun a b => ⟨a.nanoseconds + b.nanoseconds⟩⟩

def longer (a b : Duration) : Duration := ⟨max a.nanoseconds b.nanoseconds⟩

theorem le_iff {a b : Duration} : a ≤ b <-> a.nanoseconds ≤ b.nanoseconds := Iff.rfl

theorem lt_iff {a b : Duration} : a < b <-> a.nanoseconds < b.nanoseconds := Iff.rfl

@[simp] theorem nanoseconds_add (a b : Duration) :
    (a + b).nanoseconds = a.nanoseconds + b.nanoseconds := rfl

@[simp] theorem nanoseconds_zero : zero.nanoseconds = 0 := rfl

@[ext] theorem ext {a b : Duration} (h : a.nanoseconds = b.nanoseconds) : a = b := by
  cases a
  cases b
  cases h
  rfl

protected theorem zero_add (time : Duration) : zero + time = time :=
  Duration.ext (Nat.zero_add _)

protected theorem add_zero (time : Duration) : time + zero = time :=
  Duration.ext (Nat.add_zero _)

/-! ## Text -/

/-- The decimals of `rest / 10 ^ width`, without the zeros at the end. -/
def decimals (width rest : Nat) : List Char :=
  ((Text.paddedDigits width rest).reverse.dropWhile (· == '0')).reverse

/-- A number of units of `10 ^ width` nanoseconds, with its decimals. -/
def inUnits (nanoseconds width : Nat) (unit : String) : String :=
  let whole := toString (nanoseconds / Nat.pow 10 width)
  let rest := nanoseconds % Nat.pow 10 width
  let fraction := if rest = 0 then "" else "." ++ String.ofList (decimals width rest)
  whole ++ fraction ++ unit

/-- The text of a duration, such as `1.5s` or `100ms`. -/
def text (d : Duration) : String :=
  if perSecond ≤ d.nanoseconds then inUnits d.nanoseconds 9 "s"
  else if perMillisecond ≤ d.nanoseconds then inUnits d.nanoseconds 6 "ms"
  else if 1000 ≤ d.nanoseconds then inUnits d.nanoseconds 3 "µs"
  else inUnits d.nanoseconds 0 "ns"

end Duration

end SecretProjection
