import Signoff.Proofs.Duration.Reading
import Signoff.Proofs.Engine.Availability
import Signoff.Proofs.Workflow.Acceptance

/-!
# Times that can be computed

No duration that is read is longer than `Duration.limit` (`Duration.parse_le`), and an instant that
can be moved by a duration can be moved by every shorter one (`Instant.after?_isSome`). So where
there is room for the longest duration (`Instant.HasRoom`) all times that follow from entering a
state can be computed (`Machine.not_outOfRange`), and an event that does not move a document is
denied (`Document.fire_error`).
-/

namespace Signoff

/-! ## Instants -/

namespace Instant

theorem ofSecond?_isSome {second : Int} {nano : Nat} :
    (ofSecond? second nano).isSome = true ↔ firstSecond ≤ second ∧ second ≤ lastSecond ∧
      nano < 2000000000 ∧ (1000000000 ≤ nano → second % 60 = 59) := by
  unfold ofSecond?
  split <;> simp_all

/-- An instant that can be moved by a duration can be moved by every shorter one. -/
theorem after?_isSome {t : Instant} {long short : Duration}
    (le : short.nanoseconds ≤ long.nanoseconds) (h : (t.after? long).isSome = true) :
    (t.after? short).isSome = true := by
  have first_le := t.first_le
  have le_last := t.le_last
  have nano_lt := t.nano_lt
  have leap := t.leap
  simp only [after?, add?, isLeap, Bool.and_eq_true, decide_eq_true_eq] at h ⊢
  split
  · exact ofSecond?_isSome.2 ⟨first_le, le_last, by omega, fun _ => leap (by omega)⟩
  · rename_i outside
    rw [if_neg (by omega), ofSecond?_isSome] at h
    -- a duration that leads out of a leap second loses that second, and so does a longer one
    have further : (if 1000000000 ≤ t.nano ∧ (0 : Int) < short.nanoseconds
          then (t.nano : Int) + short.nanoseconds - 1000000000
          else t.nano + short.nanoseconds) ≤
        if 1000000000 ≤ t.nano ∧ (0 : Int) < long.nanoseconds
          then (t.nano : Int) + long.nanoseconds - 1000000000
          else t.nano + long.nanoseconds := by
      split <;> split <;> omega
    have forward : 0 ≤ (if 1000000000 ≤ t.nano ∧ (0 : Int) < short.nanoseconds
          then (t.nano : Int) + short.nanoseconds - 1000000000
          else t.nano + short.nanoseconds) := by
      split <;> omega
    generalize (if 1000000000 ≤ t.nano ∧ (0 : Int) < short.nanoseconds then _ else _) = total
      at further forward ⊢
    exact ofSecond?_isSome.2 ⟨by omega, by omega, by omega, by omega⟩

/-- The longest duration that can be read ends at an instant if it starts now. -/
def HasRoom (t : Instant) : Prop := (t.after? ⟨Duration.limit⟩).isSome = true

instance (t : Instant) : Decidable t.HasRoom := inferInstanceAs (Decidable (_ = true))

end Instant

/-! ## Machines -/

namespace Machine

variable {w : Workflow} {m : Machine} {state : String} {now : Instant}

/-- The durations of a machine are durations that were read. -/
theorem duration_written (h : ofWorkflow w = .ok m) {after : Duration}
    (known : m.deadline? state = some after ∨ m.reapproval.map (·.after) = some after) :
    ∃ text, Duration.parse text = .ok after := by
  rcases known with deadline | policy
  · exact (deadline ▸ deadline?_reads h state).exists_text
  · exact (policy ▸ reapproval_reads h).exists_text

/-- Where there is room for the longest duration no time is out of range. -/
theorem not_outOfRange (h : ofWorkflow w = .ok m) (room : now.HasRoom) (state : String) :
    ¬ m.OutOfRange state now := by
  rintro ⟨after, beyond, known⟩
  obtain ⟨text, read⟩ := duration_written h known
  have fits := Instant.after?_isSome (Duration.parse_le read) room
  rw [beyond] at fits
  cases fits

theorem dueAt_ne_error (h : ofWorkflow w = .ok m) (room : now.HasRoom) {f : Failure} :
    m.dueAt state now ≠ .error f :=
  fun failed => not_outOfRange h room state (dueAt_eq_error failed).1

theorem nextReapproval_ne_error (h : ofWorkflow w = .ok m) (room : now.HasRoom) {f : Failure} :
    m.nextReapproval now ≠ .error f :=
  fun failed => not_outOfRange h room m.initial (nextReapproval_eq_error failed).1

end Machine

/-- Where there is room for the longest duration an event that does not move a document is
denied. -/
theorem Document.fire_error {w : Workflow} {m : Machine} {now : Instant} {d : Document}
    {event : String} {roles : RoleSet} {f : Failure} (h : Machine.ofWorkflow w = .ok m)
    (room : now.HasRoom) (failed : d.fire m event roles now = .error f) :
    f.deniesEvent = true := by
  by_cases accepted : ∃ t, d.Accepts m event roles t
  · obtain ⟨t, accepts⟩ := accepted
    rcases fire_available now accepts with ⟨d', moved⟩ | ⟨f', -, beyond, -⟩
    · rw [failed] at moved
      cases moved
    · exact absurd beyond (Machine.not_outOfRange h room t.target)
  · obtain ⟨f', denied, denies⟩ := fire_denied now accepted
    rw [failed] at denied
    cases denied
    exact denies

end Signoff
