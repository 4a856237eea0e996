import MultiAgents.Services.TrackedTools

/-!
# Orders and counts of the tool calls of a turn

A start takes the next order before it inserts its row, and stores the number of
pending calls, which those completed have left.  Where the starts take their turns
and no call is completed before the last of them, the orders are `1` to `n` and the
count is `n`.
-/

namespace MultiAgents.ExecutionTracker

open Containers Effects Text

def ToolWaiting.isStart : ToolWaiting → Bool
  | .complete _ _ => false
  | _ => true

/-- It has got the answer to its first query. -/
def ToolWaiting.isActive : ToolWaiting → Bool
  | .insert _ _ | .find _ _ | .count _ => true
  | _ => false

theorem ToolWaiting.isStart_of_isActive {waiting : ToolWaiting} (active : waiting.isActive) :
    waiting.isStart := by
  cases waiting with
  | complete _ _ => exact active
  | _ => rfl

/-- No start is under way. -/
def Quiet (calls : Tickets ToolWaiting) : Prop :=
  ∀ entry ∈ calls.held.entries, entry.2.isStart = false

/-- No start but this one has got an answer. -/
def Alone (calls : Tickets ToolWaiting) (call : Nat) : Prop :=
  ∀ entry ∈ calls.held.entries, entry.2.isActive → entry.1 = call

instance (calls : Tickets ToolWaiting) : Decidable (Quiet calls) :=
  inferInstanceAs (Decidable (∀ _ ∈ _, _))

instance (calls : Tickets ToolWaiting) (call : Nat) : Decidable (Alone calls call) :=
  inferInstanceAs (Decidable (∀ _ ∈ _, _))

theorem alone_iff {calls : Tickets ToolWaiting} {call : Nat} :
    Alone calls call ↔
      ∀ other waiting, calls.get? other = some waiting → waiting.isActive → other = call := by
  constructor
  · intro alone other waiting found
    exact alone (other, waiting) (OrderedMap.mem_entries_iff.mpr found)
  · intro alone entry isEntry
    exact alone entry.1 entry.2 (OrderedMap.mem_entries_iff.mp isEntry)

namespace OpenTurn

/-- The calls have the orders from one on. -/
def Numbered (turn : OpenTurn) : Prop :=
  turn.callOrders.Perm (List.range' 1 turn.callOrders.length)

/-- The count after the last start. -/
def Counted (turn : OpenTurn) : Prop :=
  Quiet turn.calls → turn.toolCallsCount = turn.callOrders.length

instance (turn : OpenTurn) : Decidable turn.Numbered :=
  inferInstanceAs (Decidable (List.Perm _ _))

instance (turn : OpenTurn) : Decidable turn.Counted :=
  inferInstanceAs (Decidable (_ → _))

def pendingRows (turn : OpenTurn) : List Nat := turn.pendingToolCalls.entries.map Prod.snd

/-- A start gets its first answer while no other is between its own and its end.  When a call
becomes pending, it has an identifier of its own and the other rows of the turn are still pending.
No query of a start fails after its row is inserted. -/
def Orderly (turn : OpenTurn) : Action → Prop
  | .startToolCall _ _ | .completeToolCall _ _ => True
  | .answer call =>
      match turn.calls.get? call with
      | some (.order _ _) => Alone turn.calls call
      | some (.find toolUseId toolCall) =>
          turn.pendingToolCalls.get? toolUseId = none ∧
            ∀ row < turn.callOrders.length, row ≠ toolCall → row ∈ turn.pendingRows
      | _ => True
  | .fault call =>
      match turn.calls.get? call with
      | some (.find _ _) | some (.count _) => False
      | _ => True

instance (turn : OpenTurn) (action : Action) : Decidable (turn.Orderly action) := by
  unfold Orderly
  repeat' split
  all_goals infer_instance

/-- What a start that has got an answer knows of the turn. -/
def Knows (turn : OpenTurn) : ToolWaiting → Prop
  | .insert _ callOrder =>
      callOrder = turn.callOrders.length + 1 ∧ turn.toolCallsCount = turn.callOrders.length
  | .find _ toolCall => toolCall + 1 = turn.callOrders.length ∧ toolCall ∉ turn.pendingRows
  | .count currentCount => currentCount = turn.callOrders.length
  | _ => True

structure InOrder (turn : OpenTurn) : Prop where
  numbered : turn.Numbered
  apart : turn.pendingRows.Nodup
  below : ∀ row ∈ turn.pendingRows, row < turn.callOrders.length
  settled : (∀ call waiting, turn.calls.get? call = some waiting → waiting.isActive = false) →
    turn.toolCallsCount = turn.callOrders.length
  active : ∀ call waiting, turn.calls.get? call = some waiting → waiting.isActive →
    Alone turn.calls call ∧ turn.Knows waiting

variable {turn : OpenTurn}

theorem getNextCallOrder_eq (numbered : turn.Numbered) :
    turn.getNextCallOrder = turn.callOrders.length + 1 := by
  have isOrder (order : Nat) :
      order ∈ turn.callOrders ↔ 1 ≤ order ∧ order < 1 + turn.callOrders.length := by
    rw [numbered.mem_iff, List.mem_range'_1]
  unfold getNextCallOrder
  cases largest : turn.callOrders.max? with
  | none => simp [List.max?_eq_none_iff.mp largest]
  | some order =>
      obtain ⟨isLargest, largest⟩ := List.max?_eq_some_iff.mp largest
      have first := (isOrder order).mp isLargest
      have last := largest _ ((isOrder turn.callOrders.length).mpr (by omega))
      simp only [Option.getD_some]
      omega

theorem numbered_append (numbered : turn.Numbered) :
    (turn.callOrders ++ [turn.callOrders.length + 1]).Perm
      (List.range' 1 (turn.callOrders ++ [turn.callOrders.length + 1]).length) := by
  rw [List.length_append, List.length_singleton, List.range'_concat, Nat.one_mul,
    Nat.add_comm 1 turn.callOrders.length]
  exact numbered.append_right _

/-- A start that goes on. -/
theorem inOrder_next {call : Nat} {old waiting : ToolWaiting}
    (found : turn.calls.get? call = some old) (alone : Alone turn.calls call)
    (numbered : turn.Numbered) (apart : turn.pendingRows.Nodup)
    (below : ∀ row ∈ turn.pendingRows, row < turn.callOrders.length)
    (isActive : waiting.isActive) (knows : turn.Knows waiting) :
    (turn.next call waiting).InOrder := by
  have only (other : Nat) (found' : ToolWaiting)
      (isFound : (turn.calls.change call waiting).get? other = some found')
      (active : found'.isActive) : other = call := by
    by_contra differs
    rw [Tickets.get?_change found, if_neg differs] at isFound
    exact differs (alone_iff.mp alone other found' isFound active)
  refine ⟨numbered, apart, below, fun none => ?_, fun other found' isFound active => ?_⟩
  · have inactive := none call waiting (by simp [next, Tickets.get?_change found])
    rw [isActive] at inactive
    cases inactive
  · obtain rfl := only other found' isFound active
    rw [next, Tickets.get?_change found, if_pos rfl] at isFound
    obtain rfl := Option.some.inj isFound
    exact ⟨alone_iff.mpr only, knows⟩

/-- A call that is over. -/
theorem InOrder.finish (inOrder : turn.InOrder) {call : Nat}
    (ended : ∀ waiting, turn.calls.get? call = some waiting → waiting.isActive →
      turn.toolCallsCount = turn.callOrders.length) : (turn.finish call).InOrder := by
  refine { inOrder with settled := fun none => ?_, active := fun other waiting found active => ?_ }
  · by_cases isActive : ∃ waiting, turn.calls.get? call = some waiting ∧ waiting.isActive
    · obtain ⟨waiting, found, active⟩ := isActive
      exact ended waiting found active
    · refine inOrder.settled fun other waiting found => ?_
      by_cases same : other = call
      · subst same
        exact Bool.eq_false_iff.mpr fun active => isActive ⟨waiting, found, active⟩
      · exact none other waiting (by rw [OpenTurn.finish, Tickets.get?_remove, if_neg same, found])
  · obtain ⟨-, earlier⟩ := Tickets.of_get?_remove found
    obtain ⟨alone, knows⟩ := inOrder.active other waiting earlier active
    exact ⟨alone_iff.mpr fun another waiting isFound =>
      alone_iff.mp alone another waiting (Tickets.of_get?_remove isFound).2, knows⟩

/-- A call that is made. -/
theorem InOrder.add (inOrder : turn.InOrder) {waiting : ToolWaiting}
    (inactive : waiting.isActive = false) :
    InOrder { turn with calls := turn.calls.add waiting } := by
  have earlier {call : Nat} {found : ToolWaiting}
      (isFound : (turn.calls.add waiting).get? call = some found) (active : found.isActive) :
      turn.calls.get? call = some found := by
    rcases Tickets.of_get?_add isFound with ⟨-, rfl⟩ | isFound
    · rw [inactive] at active
      cases active
    · exact isFound
  refine { inOrder with settled := fun none => ?_, active := fun call found isFound active => ?_ }
  · exact inOrder.settled fun call found isFound => none call found
      (by rw [Tickets.get?_add, if_neg (Tickets.ne_issued isFound), isFound])
  · obtain ⟨alone, knows⟩ := inOrder.active call found (earlier isFound active) active
    exact ⟨alone_iff.mpr fun other found isFound active =>
      alone_iff.mp alone other found (earlier isFound active) active, knows⟩

/-- A call that is not pending any more. -/
theorem InOrder.erase (inOrder : turn.InOrder) (toolUseId : Json) :
    InOrder { turn with pendingToolCalls := turn.pendingToolCalls.erase toolUseId } := by
  have fewer : ((turn.pendingToolCalls.erase toolUseId).entries.map Prod.snd).Sublist
      turn.pendingRows := List.filter_sublist.map _
  refine { inOrder with
    apart := fewer.nodup inOrder.apart
    below := fun row isRow => inOrder.below row (fewer.subset isRow)
    active := fun call waiting found active => ?_ }
  obtain ⟨alone, knows⟩ := inOrder.active call waiting found active
  refine ⟨alone, ?_⟩
  cases waiting with
  | find _ toolCall => exact ⟨knows.1, fun isPending => knows.2 (fewer.subset isPending)⟩
  | _ => exact knows

theorem pendingRows_set {toolUseId : Json} (absent : turn.pendingToolCalls.get? toolUseId = none)
    (toolCall : Nat) :
    pendingRows { turn with pendingToolCalls := turn.pendingToolCalls.set toolUseId toolCall } =
      turn.pendingRows ++ [toolCall] := by
  have isNew : toolUseId ∉ turn.pendingToolCalls.entries.map Prod.fst := by
    rw [OrderedMap.mem_keys_iff]
    simp [absent]
  simp [OrderedMap.set, isNew, pendingRows]

/-- Only this start might have got an answer, and it has not. -/
theorem InOrder.settled_of_alone (inOrder : turn.InOrder) {call : Nat} {waiting : ToolWaiting}
    (found : turn.calls.get? call = some waiting) (inactive : waiting.isActive = false)
    (alone : Alone turn.calls call) : turn.toolCallsCount = turn.callOrders.length := by
  refine inOrder.settled fun other others isFound => Bool.eq_false_iff.mpr fun active => ?_
  obtain rfl := alone_iff.mp alone other others isFound active
  obtain rfl := Option.some.inj (found.symm.trans isFound)
  rw [inactive] at active
  cases active

/-- With the last row all rows of the turn are pending, each of them once. -/
theorem InOrder.pend (inOrder : turn.InOrder) {toolCall : Nat}
    (isLast : toolCall + 1 = turn.callOrders.length) (isNew : toolCall ∉ turn.pendingRows)
    (pending : ∀ row < turn.callOrders.length, row ≠ toolCall → row ∈ turn.pendingRows) :
    (turn.pendingRows ++ [toolCall]).Perm (List.range turn.callOrders.length) := by
  have apart : (turn.pendingRows ++ [toolCall]).Nodup :=
    (List.perm_append_singleton _ _).nodup_iff.mpr (List.nodup_cons.mpr ⟨isNew, inOrder.apart⟩)
  refine (List.perm_ext_iff_of_nodup apart List.nodup_range).mpr fun row => ?_
  rw [List.mem_append, List.mem_singleton, List.mem_range]
  constructor
  · rintro (isPending | rfl)
    · exact inOrder.below row isPending
    · omega
  · intro isRow
    by_cases same : row = toolCall
    · exact .inr same
    · exact .inl (pending row isRow same)

theorem InOrder.answer (inOrder : turn.InOrder) {call : Nat} {waiting : ToolWaiting}
    (found : turn.calls.get? call = some waiting) (orderly : turn.Orderly (.answer call)) :
    (turn.resume call waiting).InOrder := by
  simp only [Orderly, found] at orderly
  have inactive (none : waiting.isActive = false) : ∀ waiting,
      turn.calls.get? call = some waiting → waiting.isActive →
        turn.toolCallsCount = turn.callOrders.length := by
    intro other isFound active
    obtain rfl := Option.some.inj (found.symm.trans isFound)
    rw [none] at active
    cases active
  cases waiting with
  | order toolUseId toolInput =>
      cases toolInput with
      | none => exact inOrder.finish (inactive rfl)
      | some input =>
          exact inOrder_next found orderly inOrder.numbered inOrder.apart inOrder.below rfl
            ⟨getNextCallOrder_eq inOrder.numbered, inOrder.settled_of_alone found rfl orderly⟩
  | insert toolUseId callOrder =>
      obtain ⟨alone, rfl, -⟩ := inOrder.active call _ found rfl
      have below : ∀ row ∈ turn.pendingRows,
          row < (turn.callOrders ++ [turn.callOrders.length + 1]).length :=
        fun row isRow => by simpa using Nat.lt_succ_of_lt (inOrder.below row isRow)
      exact inOrder_next found alone (numbered_append inOrder.numbered) inOrder.apart below rfl
        ⟨by simp, fun isPending => Nat.lt_irrefl _ (inOrder.below _ isPending)⟩
  | find toolUseId toolCall =>
      obtain ⟨alone, isLast, isNew⟩ := inOrder.active call _ found rfl
      obtain ⟨absent, pending⟩ := orderly
      have rows := inOrder.pend isLast isNew pending
      rw [← pendingRows_set absent toolCall] at rows
      have size : (turn.pendingToolCalls.set toolUseId toolCall).entries.length =
          turn.callOrders.length := by
        have all := rows.length_eq
        rwa [pendingRows, List.length_map, List.length_range] at all
      exact inOrder_next found alone inOrder.numbered (rows.nodup_iff.mpr List.nodup_range)
        (fun row isRow => List.mem_range.mp (rows.mem_iff.mp isRow)) rfl size
  | count currentCount =>
      obtain ⟨alone, isCount⟩ := inOrder.active call _ found rfl
      refine { inOrder with
        settled := fun _ => isCount
        active := fun other _ isFound active => ?_ }
      obtain ⟨differs, earlier⟩ := Tickets.of_get?_remove isFound
      exact absurd (alone_iff.mp alone other _ earlier active) differs
  | complete toolUseId toolOutput =>
      simp only [resume]
      cases toolOutput.mapM textOf with
      | error error => exact inOrder.finish (inactive rfl)
      | ok output => exact (inOrder.erase toolUseId).finish (inactive rfl)

theorem InOrder.step (inOrder : turn.InOrder) {action : Action} (orderly : turn.Orderly action) :
    (turn.step action).InOrder := by
  cases action with
  | startToolCall toolUseId toolInput => exact inOrder.add rfl
  | completeToolCall toolUseId toolOutput =>
      simp only [OpenTurn.step, completeToolCall]
      split
      · exact inOrder
      · exact inOrder.add rfl
  | answer call =>
      simp only [OpenTurn.step]
      split
      · exact inOrder
      · next waiting found => exact inOrder.answer found orderly
  | fault call =>
      refine inOrder.finish fun waiting found active => ?_
      simp only [Orderly, found] at orderly
      obtain ⟨-, knows⟩ := inOrder.active call waiting found active
      cases waiting with
      | insert toolUseId callOrder => exact knows.2
      | find _ _ | count _ => exact orderly.elim
      | order _ _ | complete _ _ => cases active

end OpenTurn

end MultiAgents.ExecutionTracker
