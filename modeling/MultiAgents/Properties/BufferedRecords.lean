import MultiAgents.Effects.Machine
import MultiAgents.Services.SentinentalWebhook

/-!
# Records on their way to the webhook

Flushes overlap, and their requests are answered in any order.  A record is moved
from one place to another and never copied.
-/

namespace MultiAgents.SentinentalWebhook.Webhook

open Effects

variable {webhook : Webhook}

/-- Every object is in exactly one place. -/
def Conserved (webhook : Webhook) : Prop :=
  (webhook.buffer ++ webhook.flushes.flatten ++ webhook.accepted.flatten).Perm
    (List.range webhook.records.length)

theorem Conserved.flush (conserved : Conserved webhook) : Conserved webhook.flush := by
  unfold Webhook.flush
  split
  · exact conserved
  · refine List.Perm.trans ?_ conserved
    simp only [List.nil_append, List.flatten_append, List.flatten_singleton]
    exact List.perm_append_comm.append_right _

theorem Conserved.bufferRecord (conserved : Conserved webhook) (batchSize : Option Int)
    (record : SecurityTrainingRecord) : Conserved (webhook.bufferRecord batchSize record) := by
  have buffered : Conserved { webhook with
      records := webhook.records ++ [record]
      buffer := webhook.buffer ++ [webhook.records.length] } := by
    unfold Conserved
    rw [List.length_append, List.length_singleton, List.range_succ]
    refine List.Perm.trans ?_ (conserved.append_right [webhook.records.length])
    simp only [List.append_assoc]
    exact (List.perm_append_comm.append_left _).trans (by simp)
  unfold Webhook.bufferRecord
  dsimp only
  split
  · exact buffered.flush
  · exact buffered

/-- A batch among others comes first in some order. -/
theorem perm_flatten_eraseIdx {batches : List (List Nat)} {place : Nat} {batch : List Nat}
    (found : batches[place]? = some batch) :
    (batch ++ (batches.eraseIdx place).flatten).Perm batches.flatten := by
  obtain ⟨inside, rfl⟩ := List.getElem?_eq_some_iff.mp found
  exact (List.getElem_cons_eraseIdx_perm inside).flatten

theorem Conserved.answered (conserved : Conserved webhook) (place : Nat) (ok : Bool) :
    Conserved (webhook.answered place ok) := by
  unfold Webhook.answered
  split
  · exact conserved
  · rename_i batch found
    have batches := perm_flatten_eraseIdx found
    -- The batch goes to the end, or to the start.
    cases ok with
    | true =>
        refine List.Perm.trans ?_ conserved
        simp only [if_true, List.flatten_append, List.flatten_singleton, List.append_assoc]
        refine List.Perm.append_left _ (List.Perm.trans ?_ (batches.append_right _))
        rw [List.append_assoc]
        exact ((List.perm_append_comm_assoc _ _ _).trans
          (List.perm_append_comm.append_left _)).symm
    | false =>
        refine List.Perm.trans ?_ conserved
        refine List.Perm.append_right _ (List.Perm.trans ?_ (batches.append_left _))
        rw [← List.append_assoc]
        exact List.perm_append_comm.append_right _

theorem Conserved.step (conserved : Conserved webhook) (action : Action) :
    Conserved (webhook.step action) := by
  cases action with
  | record batchSize record => exact conserved.bufferRecord batchSize record
  | flush => exact conserved.flush
  | answered place ok => exact conserved.answered place ok

/-- Records and accepted batches are only added to. -/
def Extends (before after : Webhook) : Prop :=
  before.records <+: after.records ∧ before.accepted <+: after.accepted

theorem Extends.trans {first second third : Webhook} (one : Extends first second)
    (other : Extends second third) : Extends first third :=
  ⟨one.1.trans other.1, one.2.trans other.2⟩

theorem extends_flush (webhook : Webhook) : Extends webhook webhook.flush := by
  unfold Webhook.flush
  split <;> exact ⟨List.prefix_rfl, List.prefix_rfl⟩

theorem extends_step (webhook : Webhook) (action : Action) :
    Extends webhook (webhook.step action) := by
  cases action with
  | record batchSize record =>
      have buffered : Extends webhook { webhook with
          records := webhook.records ++ [record]
          buffer := webhook.buffer ++ [webhook.records.length] } :=
        ⟨List.prefix_append _ _, List.prefix_rfl⟩
      unfold Webhook.step Webhook.bufferRecord
      dsimp only
      split
      · exact buffered.trans (extends_flush _)
      · exact buffered
  | flush => exact extends_flush webhook
  | answered place ok =>
      unfold Webhook.step Webhook.answered
      dsimp only
      split
      · exact ⟨List.prefix_rfl, List.prefix_rfl⟩
      · cases ok with
        | true => exact ⟨List.prefix_rfl, List.prefix_append _ _⟩
        | false => exact ⟨List.prefix_rfl, List.prefix_rfl⟩

theorem extends_run (webhook : Webhook) (actions : List Action) :
    Extends webhook (Machine.run step webhook actions) := by
  refine List.foldlRecOn (motive := Extends webhook) actions step ?_ ?_
  · exact ⟨List.prefix_rfl, List.prefix_rfl⟩
  · intro reached earlier action _
    exact earlier.trans (extends_step reached action)

/-- At any time every record is in one place only, and what was accepted is not sent again. -/
theorem records_are_conserved (earlier later : List Action) :
    let before := Machine.run step {} earlier
    let after := Machine.run step before later
    Conserved after ∧ before.records <+: after.records ∧ before.accepted <+: after.accepted ∧
      ∀ object ∈ before.accepted.flatten,
        object ∉ after.buffer ∧ ∀ batch ∈ after.flushes, object ∉ batch := by
  intro before after
  have conserved : Conserved after := by
    refine List.foldlRecOn (motive := Conserved) later step ?_ fun _ reached action _ =>
      reached.step action
    exact List.foldlRecOn (motive := Conserved) earlier step (List.Perm.refl _)
      fun _ reached action _ => reached.step action
  obtain ⟨records, accepted⟩ := extends_run before later
  refine ⟨conserved, records, accepted, ?_⟩
  intro object sent
  have nodup := conserved.nodup_iff.mpr List.nodup_range
  have apart := (List.nodup_append.mp nodup).2.2
  have held : object ∈ after.accepted.flatten := by
    obtain ⟨rest, same⟩ := accepted
    rw [← same, List.flatten_append]
    exact List.mem_append_left _ sent
  constructor
  · intro buffered
    exact apart object (List.mem_append_left _ buffered) object held rfl
  · intro batch flying inside
    have flies := List.mem_flatten.mpr ⟨batch, flying, inside⟩
    exact apart object (List.mem_append_right _ flies) object held rfl

end MultiAgents.SentinentalWebhook.Webhook
