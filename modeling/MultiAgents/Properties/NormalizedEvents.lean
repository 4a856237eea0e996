import MultiAgents.Services.BridgeEvents

/-!
# Normalized tool events

Normalizing puts the path that an event is found to name at its top level, under
one of the names it is looked for, and drops the others.  A path that was not
found there is looked for in the input and in the content, which stay.
-/

namespace MultiAgents

open Text

/-- Without a path at the top level, only the input and the content count. -/
theorem extractFilePath_eq (filePath input content : Value) :
    extractFilePath filePath input content =
      (filledText filePath).elim (extractFilePath none input content) .ok := by
  unfold extractFilePath
  cases filledText filePath <;> rfl

theorem filledText_ne_empty {value : Value} {path : String}
    (filled : filledText value = some path) : path ≠ "" := by
  unfold filledText at filled
  split at filled
  · simpa using (Option.filter_eq_some_iff.mp filled).2
  · cases filled

/-- A path that was found may stand at the top level instead. -/
theorem extractFilePath_found {filePath input content : Value} {path : String}
    (found : extractFilePath filePath input content = .ok path) :
    extractFilePath (.text? (presentText path)) input content = .ok path := by
  rw [extractFilePath_eq]
  by_cases empty : path = ""
  · subst empty
    rw [extractFilePath_eq] at found
    cases filled : filledText filePath with
    | none =>
        rw [filled] at found
        exact found
    | some path =>
        rw [filled] at found
        cases found
        exact absurd rfl (filledText_ne_empty filled)
  · have present : presentText (some path) = some path := Option.filter_eq_some_iff.mpr
      ⟨rfl, bne_iff_ne.mpr empty⟩
    rw [present, Value.text?, Option.map_some, filledText, present]
    rfl

/-- A property that has been filled is not filled again. -/
theorem orElse_again (value : Value) (fallback other : Json)
    (settled : fallback.truthy = true ∨ other = fallback) :
    Value.orElse (some (Value.orElse value fallback)) other = Value.orElse value fallback := by
  cases truthy : fallback.truthy with
  | true => exact Value.orElse_of_truthy (Value.truthy_orElse value truthy) other
  | false =>
      obtain rfl : other = fallback := settled.resolve_left (by simp [truthy])
      exact Value.orElse_orElse value truthy other

section Normalized

variable (stamp : Stamp) (event : Json) (filePath : String)

theorem property_normalized {name : String} {value : Value}
    (listed : ((normalizedFields stamp event filePath).lookup name).join = value) :
    (Json.record (normalizedFields stamp event filePath)).property name = value := by
  rw [Json.property_record (by simp [normalizedFields]), listed]

/-- The path is the only one at the top level. -/
theorem pathProperty_normalized :
    pathProperty (Json.record (normalizedFields stamp event filePath)) =
      .text? (presentText filePath) := by
  have absent (name : String)
      (unlisted : ((normalizedFields stamp event filePath).lookup name).join = none) :=
    property_normalized stamp event filePath unlisted
  have path : (Json.record (normalizedFields stamp event filePath)).property "file_path" =
      .text? (presentText filePath) := property_normalized stamp event filePath rfl
  simp only [pathProperty, Value.member?, Option.bind_some, path, absent "filePath" rfl,
    absent "path" rfl, absent "file" rfl]
  unfold either
  by_cases empty : filePath = ""
  · subst empty
    rfl
  · simp [empty, presentText, Value.text?, Value.truthy, Json.truthy, Option.filter]

/-- What was filled is filled with the same again. -/
theorem orElse_normalized {name fallback other : String}
    (listed : ((normalizedFields stamp event filePath).lookup name).join =
      some ((event.property name).orElse (.str fallback)))
    (settled : fallback ≠ "" ∨ other = fallback) :
    ((Json.record (normalizedFields stamp event filePath)).property name).orElse (.str other) =
      (event.property name).orElse (.str fallback) := by
  rw [property_normalized stamp event filePath listed]
  exact orElse_again _ _ _ (settled.imp bne_iff_ne.mpr (congrArg Json.str))

theorem normalizedFields_normalized (later : Stamp) :
    normalizedFields later (Json.record (normalizedFields stamp event filePath)) filePath =
      normalizedFields stamp event filePath := by
  have kept (name : String)
      (listed : ((normalizedFields stamp event filePath).lookup name).join =
        event.property name) := property_normalized stamp event filePath listed
  have filled (name : String) {fallback other : String} :=
    @orElse_normalized stamp event filePath name fallback other
  rw [normalizedFields]
  dsimp only
  rw [filled "id" rfl (.inl (by simp [toString])), filled "taskId" rfl (.inr rfl),
    filled "type" rfl (.inl (by decide)), filled "tool" rfl (.inl (by decide)),
    filled "state" rfl (.inl (by decide)), filled "timestamp" rfl (.inl stamp.written),
    kept "content" rfl, kept "input" rfl, kept "output" rfl, kept "result" rfl, kept "error" rfl,
    kept "duration" rfl, kept "streaming" rfl]
  rfl

end Normalized

theorem extractEventPath_normalized (stamp : Stamp) {event : Json} {filePath : String}
    (found : extractEventPath event = .ok filePath) :
    extractEventPath (.record (normalizedFields stamp event filePath)) = .ok filePath := by
  rw [extractEventPath, pathProperty_normalized,
    @property_normalized stamp event filePath "input" (event.property "input") rfl,
    @property_normalized stamp event filePath "content" (event.property "content") rfl]
  exact extractFilePath_found found

/-- Unless the search for a path raises, an event is normalized; that does not change the path
that is found, and normalizing again does nothing. -/
theorem normalizeToolEvent_stable (stamp : Stamp) (event : Json) :
    (∃ raised, extractEventPath event = .error raised ∧
      normalizeToolEvent stamp event = .error raised) ∨
    ∃ normalized, normalizeToolEvent stamp event = .ok normalized ∧
      extractEventPath normalized = extractEventPath event ∧
      ∀ later, normalizeToolEvent later normalized = .ok normalized := by
  cases found : extractEventPath event with
  | error raised =>
      refine .inl ⟨raised, rfl, ?_⟩
      rw [normalizeToolEvent, found]
      rfl
  | ok filePath =>
      have path := extractEventPath_normalized stamp found
      refine .inr ⟨_, ?_, path, fun later => ?_⟩
      · rw [normalizeToolEvent, found]
        rfl
      · rw [normalizeToolEvent, path]
        exact congrArg (fun fields => Except.ok (Json.record fields))
          (normalizedFields_normalized stamp event filePath later)

/-- An event that names its file in its input only. -/
example :
    (normalizeToolEvent ⟨1718000000000, "2024-06-10T06:13:20.000Z", "k3x9", by decide⟩
      (.obj [("input", .obj [("filePath", .str "a.ts")])])).map (·.property "file_path") =
      .ok (some (.str "a.ts")) := by
  decide +kernel

end MultiAgents
