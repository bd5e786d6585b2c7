import CardFile.Date
import CardFile.Score.Basic

/-!
The decay of use scores. A score counts in full for a week after the last use; after that it fades
with a time constant of thirty days. The exponential function is the machine's.
-/
namespace CardFile.Score

def graceDays : Int := 7

def decayDays (lastUse today : Date) : Nat :=
  (today.dayNumber - lastUse.dayNumber - graceDays).toNat

/-- What is left of a score after some days of decay: none where an infinite score meets a share
too small to be told from nothing. -/
def decayed? (s : Score) (days : Nat) : Option Score :=
  let x := s.toFloat * Float.exp (-days.toFloat / 30)
  if x.isNaN then none else some (ofFloat x)

/-- The score on a day. A last use that is unknown or names no day leaves nothing. -/
def effective? (s : Score) (lastUse : Option Date) (today : Date) : Option Score :=
  match lastUse with
  | some day => if day.isDay then s.decayed? (decayDays day today) else some zero
  | none => some zero

def afterUse (s : Option Score) : Score :=
  match s with
  | some s => ofFloat (s.toFloat + 1)
  | none => zero

end CardFile.Score
