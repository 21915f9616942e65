import AtLeastOnce.Handling.Report

/-!
# Counting reports

Each report adds one to exactly one of the four counts.
-/

namespace AtLeastOnce

/-- The counter that an acknowledgement belongs to. -/
inductive AckKind where
  | deleted
  | deadLettered
  | left
  | failed
  deriving DecidableEq, Repr

namespace AckKind

def of : Except AckError AckAction → AckKind
  | .ok .deleted => .deleted
  | .ok (.deadLettered _) => .deadLettered
  | .ok .left => .left
  | .error _ => .failed

end AckKind

namespace AckCounts

def get (counts : AckCounts) : AckKind → Nat
  | .deleted => counts.deleted
  | .deadLettered => counts.deadLettered
  | .left => counts.left
  | .failed => counts.failed

def total (counts : AckCounts) : Nat :=
  counts.deleted + counts.deadLettered + counts.left + counts.failed

theorem get_record (counts : AckCounts) (ack : Except AckError AckAction)
    (kind : AckKind) :
    (counts.record ack).get kind =
      counts.get kind + if AckKind.of ack = kind then 1 else 0 := by
  rcases ack with error | action | action | action <;> cases kind <;> rfl

theorem total_record (counts : AckCounts) (ack : Except AckError AckAction) :
    (counts.record ack).total = counts.total + 1 := by
  rcases ack with error | action | action | action <;>
    simp only [record, total] <;> omega

theorem total_foldl_record (reports : List Report) (counts : AckCounts) :
    (reports.foldl (fun counts report => counts.record report.ack) counts).total =
      counts.total + reports.length := by
  induction reports generalizing counts with
  | nil => rfl
  | cons report rest induction =>
      rw [List.foldl_cons, induction, total_record, List.length_cons]
      omega

theorem total_ofReports (reports : List Report) :
    (ofReports reports).total = reports.length := by
  rw [ofReports, total_foldl_record, show none.total = 0 from rfl, Nat.zero_add]

end AckCounts

end AtLeastOnce
