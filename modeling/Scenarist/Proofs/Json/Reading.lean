import Scenarist.Proofs.Json.Token

/-! # Reading a Json text

Reading a value answers the tokens it leaves, which are fewer than it was given.
A text is decoded if its tokens are those of one value. Whatever stands behind
the text of a value, reading takes exactly this value off. -/

namespace Scenarist.Json

mutual

def readValue (tokens : List Token) : Option (Value × Fewer tokens) :=
  match tokens with
  | .scalar value :: rest => some (value, ⟨rest, Nat.lt_succ_self _⟩)
  | .mark '[' :: .mark ']' :: rest =>
    some (.array [], ⟨rest, Nat.lt_succ_of_lt (Nat.lt_succ_self _)⟩)
  | .mark '[' :: rest =>
    match readItems rest with
    | none => none
    | some (items, ⟨left, fewer⟩) => some (.array items, ⟨left, Nat.lt_succ_of_lt fewer⟩)
  | .mark '\x7b' :: .mark '\x7d' :: rest =>
    some (.object [], ⟨rest, Nat.lt_succ_of_lt (Nat.lt_succ_self _)⟩)
  | .mark '\x7b' :: rest =>
    match readFields rest with
    | none => none
    | some (fields, ⟨left, fewer⟩) => some (.object fields, ⟨left, Nat.lt_succ_of_lt fewer⟩)
  | _ => none
termination_by 2 * tokens.length

/-- Reads one item or more, and the bracket that closes them. -/
def readItems (tokens : List Token) : Option (List Value × Fewer tokens) :=
  match readValue tokens with
  | some (item, ⟨.mark ']' :: rest, fewer⟩) => some ([item], ⟨rest, Nat.lt_of_succ_lt fewer⟩)
  | some (item, ⟨.mark ',' :: rest, fewer⟩) =>
    match readItems rest with
    | none => none
    | some (items, ⟨left, fewest⟩) =>
      some (item :: items, ⟨left, Nat.lt_trans fewest (Nat.lt_of_succ_lt fewer)⟩)
  | _ => none
termination_by 2 * tokens.length + 1
decreasing_by
  · omega
  · simp only [List.length_cons] at fewer
    omega

/-- Reads one field or more, and the brace that closes them. -/
def readFields (tokens : List Token) : Option (List (Text × Value) × Fewer tokens) :=
  match tokens with
  | .scalar (.string name) :: .mark ':' :: rest =>
    match readValue rest with
    | some (value, ⟨.mark '\x7d' :: left, fewer⟩) =>
      some ([(name, value)],
        ⟨left, Nat.lt_succ_of_lt (Nat.lt_succ_of_lt (Nat.lt_of_succ_lt fewer))⟩)
    | some (value, ⟨.mark ',' :: others, fewer⟩) =>
      match readFields others with
      | none => none
      | some (fields, ⟨left, fewest⟩) =>
        have fewerOthers := Nat.lt_trans fewest (Nat.lt_of_succ_lt fewer)
        some ((name, value) :: fields, ⟨left, Nat.lt_succ_of_lt (Nat.lt_succ_of_lt fewerOthers)⟩)
    | _ => none
  | _ => none
termination_by 2 * tokens.length
decreasing_by
  · simp only [List.length_cons]
    omega
  · simp only [List.length_cons] at fewer ⊢
    omega

end

/-- The value of a text. -/
def decode (text : Text) : Option Value := do
  match readValue (← readTokens text) with
  | some (value, ⟨[], _⟩) => return value
  | _ => none

/-! ## The readers without their bounds -/

/-- A reader answers a value and leaves some tokens. -/
def Leaves {α : Type} {tokens : List Token} (result : Option (α × Fewer tokens)) (answer : α)
    (left : List Token) : Prop :=
  ∃ fewer, result = some (answer, ⟨left, fewer⟩)

section

variable {tokens left rest : List Token} {value : Value}

theorem leaves_scalar (value : Value) (rest : List Token) :
    Leaves (readValue (.scalar value :: rest)) value rest := by
  rw [readValue]
  exact ⟨_, rfl⟩

theorem leaves_emptyArray (rest : List Token) :
    Leaves (readValue (.mark '[' :: .mark ']' :: rest)) (.array []) rest := by
  rw [readValue]
  exact ⟨_, rfl⟩

theorem leaves_emptyObject (rest : List Token) :
    Leaves (readValue (.mark '\x7b' :: .mark '\x7d' :: rest)) (.object []) rest := by
  rw [readValue]
  exact ⟨_, rfl⟩

theorem leaves_lastItem (reads : Leaves (readValue tokens) value (.mark ']' :: rest)) :
    Leaves (readItems tokens) [value] rest := by
  rcases reads with ⟨fewer, reads⟩
  rw [readItems, reads]
  exact ⟨_, rfl⟩

theorem leaves_nextItem {values : List Value}
    (reads : Leaves (readValue tokens) value (.mark ',' :: rest))
    (readsRest : Leaves (readItems rest) values left) :
    Leaves (readItems tokens) (value :: values) left := by
  rcases reads with ⟨fewer, reads⟩
  rcases readsRest with ⟨fewest, readsRest⟩
  rw [readItems, reads]
  simp only [readsRest]
  exact ⟨_, rfl⟩

theorem readItems_closing (rest : List Token) : readItems (.mark ']' :: rest) = none := by
  have nothing : readValue (.mark ']' :: rest) = none := by
    rw [readValue]
    all_goals simp
  rw [readItems, nothing]

theorem leaves_array {values : List Value} (reads : Leaves (readItems tokens) values left) :
    Leaves (readValue (.mark '[' :: tokens)) (.array values) left := by
  rcases reads with ⟨fewer, reads⟩
  have notClosed : ∀ others, tokens ≠ .mark ']' :: others := by
    rintro others rfl
    rw [readItems_closing] at reads
    cases reads
  rw [readValue, reads]
  · exact ⟨_, rfl⟩
  · exact notClosed

theorem leaves_lastField {name : Text}
    (reads : Leaves (readValue tokens) value (.mark '\x7d' :: rest)) :
    Leaves (readFields (.scalar (.string name) :: .mark ':' :: tokens)) [(name, value)] rest := by
  rcases reads with ⟨fewer, reads⟩
  rw [readFields, reads]
  exact ⟨_, rfl⟩

theorem leaves_nextField {name : Text} {fields : List (Text × Value)}
    (reads : Leaves (readValue tokens) value (.mark ',' :: rest))
    (readsRest : Leaves (readFields rest) fields left) :
    Leaves (readFields (.scalar (.string name) :: .mark ':' :: tokens)) ((name, value) :: fields)
      left := by
  rcases reads with ⟨fewer, reads⟩
  rcases readsRest with ⟨fewest, readsRest⟩
  rw [readFields, reads]
  simp only [readsRest]
  exact ⟨_, rfl⟩

theorem readFields_closing (rest : List Token) :
    readFields (.mark '\x7d' :: rest) = none := by
  rw [readFields]
  simp

theorem leaves_object {fields : List (Text × Value)}
    (reads : Leaves (readFields tokens) fields left) :
    Leaves (readValue (.mark '\x7b' :: tokens)) (.object fields) left := by
  rcases reads with ⟨fewer, reads⟩
  have notClosed : ∀ others, tokens ≠ .mark '\x7d' :: others := by
    rintro others rfl
    rw [readFields_closing] at reads
    cases reads
  rw [readValue, reads]
  · exact ⟨_, rfl⟩
  · exact notClosed

end

/-! ## The values of a dump -/

mutual

def value : Json → Value
  | .number value => .number value
  | .string text => .string text
  | .array items => .array (itemValues items)
  | .object fields => .object (fieldValues fields)

def itemValues : List Json → List Value
  | [] => []
  | item :: rest => item.value :: itemValues rest

def fieldValues : List (Text × Json) → List (Text × Value)
  | [] => []
  | (name, field) :: rest => (name, field.value) :: fieldValues rest

end

/-- An array is judged by its items, and an object by the values of its fields. -/
@[elab_as_elim]
theorem induction {property : Json → Prop}
    (number : ∀ value, property (.number value))
    (string : ∀ text, property (.string text))
    (array : ∀ items, (∀ item ∈ items, property item) → property (.array items))
    (object : ∀ fields, (∀ field ∈ fields, property field.2) → property (.object fields))
    (json : Json) : property json := by
  refine @Json.rec property (fun items => ∀ item ∈ items, property item)
    (fun fields => ∀ field ∈ fields, property field.2) (fun field => property field.2)
    number string array object ?_ ?_ ?_ ?_ ?_ json
  · exact List.forall_mem_nil _
  · exact fun _ _ holds others => List.forall_mem_cons.mpr ⟨holds, others⟩
  · exact List.forall_mem_nil _
  · exact fun _ _ holds others => List.forall_mem_cons.mpr ⟨holds, others⟩
  · exact fun _ _ holds => holds

/-! ## Everything is on one line -/

theorem lineFeed_not_mem_renderItems {items : List Json}
    (each : ∀ item ∈ items, '\n' ∉ item.render) : '\n' ∉ renderItems items := by
  induction items with
  | nil => simp [renderItems]
  | cons item items induction =>
      rcases List.forall_mem_cons.mp each with ⟨first, others⟩
      cases items with
      | nil => simpa [renderItems] using first
      | cons next items => simp [renderItems, first, induction others]

theorem lineFeed_not_mem_renderFields {fields : List (Text × Json)}
    (each : ∀ field ∈ fields, '\n' ∉ field.2.render) : '\n' ∉ renderFields fields := by
  induction fields with
  | nil => simp [renderFields]
  | cons field fields induction =>
      rcases field with ⟨name, field⟩
      rcases List.forall_mem_cons.mp each with ⟨first, others⟩
      cases fields with
      | nil => simp [renderFields, lineFeed_not_mem_renderString, first]
      | cons next fields =>
          simp [renderFields, lineFeed_not_mem_renderString, first, induction others]

theorem lineFeed_not_mem_render (json : Json) : '\n' ∉ json.render := by
  induction json using induction with
  | number value =>
      intro member
      exact Text.ne_of_mem_ofNat member rfl rfl
  | string text => exact lineFeed_not_mem_renderString text
  | array items each => simp [render, lineFeed_not_mem_renderItems each]
  | object fields each => simp [render, lineFeed_not_mem_renderFields each]

/-! ## What is written is read -/

/-- Whatever follows the text, if only it ends a word, the text is read as the value. -/
def Decodes (text : Text) (value : Value) : Prop :=
  ∀ rest left, (∀ head ∈ rest.head?, endsWord head = true) → readTokens rest = some left →
    ∃ tokens, readTokens (text ++ rest) = some tokens ∧ Leaves (readValue tokens) value left

theorem readTokens_mark_of (mark : Char) {rest : Text} {left : List Token}
    (isMark : isMark mark = true) (reads : readTokens rest = some left) :
    readTokens (mark :: rest) = some (.mark mark :: left) := by
  rw [readTokens_mark isMark, reads]
  rfl

theorem Decodes.before_mark {text : Text} {value : Value} (decodes : Decodes text value)
    (mark : Char) (isMark : isMark mark = true) {rest : Text} {left : List Token}
    (reads : readTokens rest = some left) :
    ∃ tokens, readTokens (text ++ mark :: rest) = some tokens ∧
      Leaves (readValue tokens) value (.mark mark :: left) := by
  refine decodes (mark :: rest) (.mark mark :: left) ?_ (readTokens_mark_of mark isMark reads)
  rintro head ⟨⟩
  rw [endsWord, isMark, Bool.or_true, Bool.true_or]

theorem renderItems_cons_cons (item next : Json) (items : List Json) :
    renderItems (item :: next :: items) = item.render ++ ',' :: renderItems (next :: items) := by
  rw [renderItems]
  · simp
  · simp

theorem renderFields_cons_cons (name : Text) (field : Json) (next : Text × Json)
    (fields : List (Text × Json)) :
    renderFields ((name, field) :: next :: fields) =
      renderString name ++ ':' :: (field.render ++ ',' :: renderFields (next :: fields)) := by
  rw [renderFields]
  · simp
  · simp

section

variable {rest : Text} {left : List Token} (reads : readTokens rest = some left)

include reads

theorem decodes_items {item : Json} {items : List Json}
    (each : ∀ each ∈ item :: items, Decodes each.render each.value) :
    ∃ tokens, readTokens (renderItems (item :: items) ++ ']' :: rest) = some tokens ∧
      Leaves (readItems tokens) (itemValues (item :: items)) left := by
  induction items generalizing item with
  | nil =>
      rcases (each item List.mem_cons_self).before_mark ']' rfl reads with
        ⟨tokens, written, leaves⟩
      exact ⟨tokens, written, leaves_lastItem leaves⟩
  | cons next items induction =>
      rcases List.forall_mem_cons.mp each with ⟨first, others⟩
      rcases induction others with ⟨more, writtenMore, leavesMore⟩
      rcases first.before_mark ',' rfl writtenMore with ⟨tokens, written, leaves⟩
      refine ⟨tokens, ?_, leaves_nextItem leaves leavesMore⟩
      rw [← written, renderItems_cons_cons]
      simp

theorem readTokens_name (name : Text) :
    readTokens (renderString name ++ ':' :: rest) =
      some (.scalar (.string name) :: .mark ':' :: left) := by
  rw [readTokens_renderString, readTokens_mark_of ':' rfl reads]
  rfl

theorem decodes_fields {field : Text × Json} {fields : List (Text × Json)}
    (each : ∀ each ∈ field :: fields, Decodes each.2.render each.2.value) :
    ∃ tokens, readTokens (renderFields (field :: fields) ++ '\x7d' :: rest) = some tokens ∧
      Leaves (readFields tokens) (fieldValues (field :: fields)) left := by
  rcases field with ⟨name, field⟩
  induction fields generalizing name field with
  | nil =>
      rcases (each _ List.mem_cons_self).before_mark '\x7d' rfl reads with
        ⟨tokens, written, leaves⟩
      refine ⟨.scalar (.string name) :: .mark ':' :: tokens, ?_, leaves_lastField leaves⟩
      rw [← readTokens_name written, renderFields]
      simp
  | cons next fields induction =>
      rcases List.forall_mem_cons.mp each with ⟨first, others⟩
      rcases induction _ _ others with ⟨more, writtenMore, leavesMore⟩
      rcases first.before_mark ',' rfl writtenMore with ⟨tokens, written, leaves⟩
      refine ⟨.scalar (.string name) :: .mark ':' :: tokens, ?_, leaves_nextField leaves leavesMore⟩
      rw [← readTokens_name written, renderFields_cons_cons]
      simp

end

theorem decodes_render (json : Json) : Decodes json.render json.value := by
  induction json using induction with
  | number value =>
      intro rest left ends reads
      refine ⟨.scalar (.number value) :: left, ?_, leaves_scalar _ left⟩
      rw [render, readTokens_ofNat ends, reads]
      rfl
  | string text =>
      intro rest left _ reads
      refine ⟨.scalar (.string text) :: left, ?_, leaves_scalar _ left⟩
      rw [render, readTokens_renderString, reads]
      rfl
  | array items each =>
      intro rest left _ reads
      cases items with
      | nil =>
          have closed := readTokens_mark_of ']' rfl reads
          exact ⟨_, readTokens_mark_of '[' rfl closed, leaves_emptyArray left⟩
      | cons item items =>
          rcases decodes_items reads each with ⟨tokens, written, leaves⟩
          refine ⟨.mark '[' :: tokens, ?_, leaves_array leaves⟩
          rw [← readTokens_mark_of '[' rfl written, render]
          simp
  | object fields each =>
      intro rest left _ reads
      cases fields with
      | nil =>
          have closed := readTokens_mark_of '\x7d' rfl reads
          exact ⟨_, readTokens_mark_of '\x7b' rfl closed, leaves_emptyObject left⟩
      | cons field fields =>
          rcases decodes_fields reads each with ⟨tokens, written, leaves⟩
          refine ⟨.mark '\x7b' :: tokens, ?_, leaves_object leaves⟩
          rw [← readTokens_mark_of '\x7b' rfl written, render]
          simp

/-- The text of a value is decoded to this value. -/
theorem decode_render (json : Json) : decode json.render = some json.value := by
  have nothing : readTokens [] = some [] := by rw [readTokens]
  rcases decodes_render json [] [] (by simp) nothing with ⟨tokens, written, fewer, reads⟩
  rw [List.append_nil] at written
  rw [decode, written, Option.bind_eq_bind, Option.bind_some, reads]
  rfl

example : decode " [\"\\u00e9\\ud83d\\ude00\\/\" ,\t-12.5e-1, null] " =
    some (.array [.string "é😀/", .number (-5 / 4), .null]) := by
  cbv

end Scenarist.Json
