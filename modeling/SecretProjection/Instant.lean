import SecretProjection.Duration

/-!
# Instants

An instant is a number of nanoseconds since the start of 1970 in universal time.  The range of
instants covers the years from 262143 before the common era to 262142, and an instant carries the
proof that it lies within.
-/

namespace SecretProjection

/-- The first second that has a name. -/
def Instant.firstSecond : Int := -8334601228800

/-- The last second that has a name. -/
def Instant.lastSecond : Int := 8210266876799

structure Instant where
  nanoseconds : Int
  lower : Instant.firstSecond * 1000000000 ≤ nanoseconds
  upper : nanoseconds < (Instant.lastSecond + 1) * 1000000000
  deriving DecidableEq

namespace Instant

@[ext] theorem ext {a b : Instant} (h : a.nanoseconds = b.nanoseconds) : a = b := by
  cases a
  cases b
  cases h
  rfl

/-- The start of 1970. -/
def epoch : Instant := ⟨0, by decide, by decide⟩

instance : Inhabited Instant := ⟨epoch⟩

/-! ## Building and taking apart -/

/-- The instant of a number of nanoseconds, if it lies within the range. -/
def ofNanoseconds? (n : Int) : Option Instant :=
  if h : firstSecond * 1000000000 ≤ n ∧ n < (lastSecond + 1) * 1000000000 then
    some ⟨n, h.1, h.2⟩
  else none

/-- The instant of a number of seconds and of nanoseconds on top of them. -/
def ofParts? (seconds : Int) (subsecond : Nat) : Option Instant :=
  ofNanoseconds? (seconds * 1000000000 + subsecond)

/-- The whole seconds, counted towards the past. -/
def seconds (t : Instant) : Int := t.nanoseconds / 1000000000

def subsecond (t : Instant) : Nat := (t.nanoseconds % 1000000000).toNat

/-- The start of the second that an instant lies in. -/
def wholeSecond (t : Instant) : Instant where
  nanoseconds := t.seconds * 1000000000
  lower := by
    have h := t.lower
    simp only [seconds, firstSecond] at *
    omega
  upper := by
    have h := t.upper
    simp only [seconds, lastSecond] at *
    omega

/-! ## Order and distance -/

instance : LE Instant := ⟨fun a b => a.nanoseconds ≤ b.nanoseconds⟩

instance : LT Instant := ⟨fun a b => a.nanoseconds < b.nanoseconds⟩

instance (a b : Instant) : Decidable (a ≤ b) :=
  inferInstanceAs (Decidable (a.nanoseconds ≤ b.nanoseconds))

instance (a b : Instant) : Decidable (a < b) :=
  inferInstanceAs (Decidable (a.nanoseconds < b.nanoseconds))

theorem le_iff {a b : Instant} : a ≤ b <-> a.nanoseconds ≤ b.nanoseconds := Iff.rfl

theorem lt_iff {a b : Instant} : a < b <-> a.nanoseconds < b.nanoseconds := Iff.rfl

/-- The instant a duration later, if it lies within the range. -/
def after? (t : Instant) (d : Duration) : Option Instant :=
  ofNanoseconds? (t.nanoseconds + d.nanoseconds)

/-- The time from one instant to a later one; nothing when it is not later. -/
def timeTo (start finish : Instant) : Duration :=
  ⟨(finish.nanoseconds - start.nanoseconds).toNat⟩

@[simp] theorem nanoseconds_timeTo (start finish : Instant) :
    (start.timeTo finish).nanoseconds = (finish.nanoseconds - start.nanoseconds).toNat := rfl

theorem ofNanoseconds?_eq_some {n : Int} {t : Instant} :
    ofNanoseconds? n = some t <-> t.nanoseconds = n := by
  unfold ofNanoseconds?
  constructor
  · intro h
    split at h
    · cases h
      rfl
    · simp at h
  · intro h
    subst h
    rw [dif_pos ⟨t.lower, t.upper⟩]

theorem nanoseconds_after? {t next : Instant} {d : Duration} :
    t.after? d = some next <-> next.nanoseconds = t.nanoseconds + d.nanoseconds :=
  ofNanoseconds?_eq_some

end Instant

end SecretProjection
