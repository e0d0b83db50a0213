import GameShelf.Proofs.Json.Spelling

/-!
# Reading what was written

The text of a value is read as the same value with its numbers read anew. Only doubles may come
out differently, and only they may make the text unreadable.

* `reread`: a value with its numbers read anew.
* `depth`: how many lists and records of a value are open at once.
* `document?_write`: the text of a value is read so, unless it is too deep.
-/

namespace GameShelf.Json

/-! ## Values read anew -/

mutual

/-- A value with its numbers read anew; absent if one of them is beyond all doubles. -/
def reread : Json → Option Json
  | .number n => rereadNumber n
  | .list items => (rereadItems items).map .list
  | .record fields => (rereadFields fields).map .record
  | scalar => some scalar

/-- The items of a list read anew. -/
def rereadItems : List Json → Option (List Json)
  | [] => some []
  | item :: rest => do
    let item ← reread item
    let rest ← rereadItems rest
    return item :: rest

/-- The fields of a record read anew. -/
def rereadFields : Fields → Option Fields
  | [] => some []
  | (key, value) :: rest => do
    let value ← reread value
    let rest ← rereadFields rest
    return (key, value) :: rest

end

mutual

/-- How many lists and records of a value are open at once. -/
def depth : Json → Nat
  | .list items => itemsDepth items + 1
  | .record fields => fieldsDepth fields + 1
  | _ => 0

/-- How many lists and records are open at once in the items of a list. -/
def itemsDepth : List Json → Nat
  | [] => 0
  | item :: rest => max (depth item) (itemsDepth rest)

/-- How many lists and records are open at once in the fields of a record. -/
def fieldsDepth : Fields → Nat
  | [] => 0
  | (_, value) :: rest => max (depth value) (fieldsDepth rest)

end

/-! ## Putting tokens together -/

namespace Assembly

/-- Reads tokens. -/
def reads? (state : Assembly) (tokens : List Token) : Option Assembly :=
  tokens.foldlM step? state

@[simp] theorem reads?_nil (state : Assembly) : state.reads? [] = some state := rfl

theorem reads?_cons (state : Assembly) (token : Token) (tokens : List Token) :
    state.reads? (token :: tokens) = (state.step? token).bind fun next => next.reads? tokens := rfl

/-- No value begins with the end of a list. -/
theorem spelled_eq_cons (value : Json) :
    ∃ first rest, spelled value = first :: rest ∧ first ≠ .closeList := by
  cases value <;> exact ⟨_, _, rfl, by simp⟩

/-- The first item of a list is read like the others. -/
theorem reads?_beforeFirstItem (stack : List Frame) (value : Json) (rest : List Token) :
    (beforeFirstItem stack).reads? (spelled value ++ rest) =
      (beforeValue (.items [] :: stack)).reads? (spelled value ++ rest) := by
  rcases spelled_eq_cons value with ⟨first, others, hspelled, hfirst⟩
  rw [hspelled, List.cons_append, reads?_cons, reads?_cons]
  cases first with
  | closeList => exact absurd rfl hfirst
  | openList => rfl
  | openRecord => rfl
  | closeRecord => rfl
  | comma => rfl
  | colon => rfl
  | text value => rfl
  | scalar value => rfl
  | fault => rfl

/-- The first item of a list is read like the others. -/
theorem reads?_firstItems (stack : List Frame) (item : Json) (items : List Json)
    (rest : List Token) :
    (beforeFirstItem stack).reads? (itemsSpelled (item :: items) ++ rest) =
      (beforeValue (.items [] :: stack)).reads? (itemsSpelled (item :: items) ++ rest) := by
  cases items with
  | nil => exact reads?_beforeFirstItem stack item rest
  | cons second items =>
    rw [itemsSpelled, List.append_assoc]
    · exact reads?_beforeFirstItem stack item _
    · simp

/-- The first field of a record is read like the others. -/
theorem reads?_firstFields (stack : List Frame) (field : String × Json) (fields : Fields)
    (rest : List Token) :
    (beforeFirstKey stack).reads? (fieldsSpelled (field :: fields) ++ rest) =
      (beforeKey [] stack).reads? (fieldsSpelled (field :: fields) ++ rest) := by
  cases fields with
  | nil => rfl
  | cons second fields => rfl

/-- A list may be opened unless too much is open. -/
theorem step?_openList {stack : List Frame} (h : stack.length < maxOpen) :
    step? (beforeValue stack) .openList = some (beforeFirstItem stack) :=
  if_pos h

/-- A record may be opened unless too much is open. -/
theorem step?_openRecord {stack : List Frame} (h : stack.length < maxOpen) :
    step? (beforeValue stack) .openRecord = some (beforeFirstKey stack) :=
  if_pos h

mutual

/-- The tokens of a value put together to the value read anew. -/
theorem reads?_spelled (value : Json) (stack : List Frame) (rest : List Token)
    (hdepth : stack.length + depth value ≤ maxOpen) :
    (beforeValue stack).reads? (spelled value ++ rest) =
      (reread value).bind fun value => (complete value stack).reads? rest := by
  match value with
  | .null => rfl
  | .flag value => rfl
  | .text t => rfl
  | .number n =>
    rw [spelled, List.singleton_append, reads?_cons, reread]
    cases rereadNumber n with
    | none => rfl
    | some value => rfl
  | .list [] =>
    rw [spelled, List.cons_append, reads?_cons, step?_openList (by rw [depth] at hdepth; omega)]
    rfl
  | .list (item :: items) =>
    rw [depth] at hdepth
    rw [spelled, List.cons_append, List.append_assoc, reads?_cons, step?_openList (by omega),
      Option.bind_some, reads?_firstItems]
    exact (reads?_itemsSpelled item items [] stack rest (by omega)).trans
      (by rw [reread, Option.bind_map]; rfl)
  | .record [] =>
    rw [spelled, List.cons_append, reads?_cons, step?_openRecord (by rw [depth] at hdepth; omega)]
    rfl
  | .record ((key, value) :: fields) =>
    rw [depth] at hdepth
    rw [spelled, List.cons_append, List.append_assoc, reads?_cons, step?_openRecord (by omega),
      Option.bind_some, reads?_firstFields]
    exact (reads?_fieldsSpelled key value fields [] stack rest (by omega)).trans
      (by rw [reread, Option.bind_map]; rfl)
termination_by (sizeOf value, 1)

/-- The tokens of items put together to a list. -/
theorem reads?_itemsSpelled (item : Json) (items : List Json) (read : List Json)
    (stack : List Frame) (rest : List Token)
    (hdepth : stack.length + (itemsDepth (item :: items) + 1) ≤ maxOpen) :
    (beforeValue (.items read :: stack)).reads?
        (itemsSpelled (item :: items) ++ .closeList :: rest) =
      (rereadItems (item :: items)).bind fun items =>
        (complete (.list (read.reverse ++ items)) stack).reads? rest := by
  rw [itemsDepth] at hdepth
  have hitem : (Frame.items read :: stack).length + depth item ≤ maxOpen := by
    rw [List.length_cons]
    omega
  match hitems : items with
  | [] =>
    rw [itemsSpelled, reads?_spelled item _ _ hitem, rereadItems, rereadItems]
    cases reread item with
    | none => rfl
    | some value => simp [complete, reads?_cons, step?]
  | second :: items =>
    -- the others are read when this item is among those read
    have hrest := fun value =>
      reads?_itemsSpelled second items (value :: read) stack rest (by omega)
    rw [itemsSpelled, List.append_assoc, reads?_spelled item _ _ hitem, rereadItems]
    · cases reread item with
      | none => rfl
      | some value =>
        have hcomma : (complete value (.items read :: stack)).step? .comma =
            some (beforeValue (.items (value :: read) :: stack)) := rfl
        rw [Option.bind_some, List.cons_append, reads?_cons, hcomma, Option.bind_some, hrest]
        cases rereadItems (second :: items) with
        | none => rfl
        | some items => simp
    · simp
termination_by (sizeOf (item :: items), 0)

/-- The tokens of fields put together to a record. -/
theorem reads?_fieldsSpelled (key : String) (value : Json) (fields : Fields) (read : Fields)
    (stack : List Frame) (rest : List Token)
    (hdepth : stack.length + (fieldsDepth ((key, value) :: fields) + 1) ≤ maxOpen) :
    (beforeKey read stack).reads?
        (fieldsSpelled ((key, value) :: fields) ++ .closeRecord :: rest) =
      (rereadFields ((key, value) :: fields)).bind fun fields =>
        (complete (.record (read.reverse ++ fields)) stack).reads? rest := by
  rw [fieldsDepth] at hdepth
  have hvalue : (Frame.fields read key :: stack).length + depth value ≤ maxOpen := by
    rw [List.length_cons]
    omega
  -- a key and its colon leave the place of the value open
  have hkey : ∀ tokens, (beforeKey read stack).reads? (.text (some key) :: .colon :: tokens) =
      (beforeValue (.fields read key :: stack)).reads? tokens := fun tokens => rfl
  match hfields : fields with
  | [] =>
    rw [fieldsSpelled, List.cons_append, List.cons_append, hkey, reads?_spelled value _ _ hvalue,
      rereadFields, rereadFields]
    cases reread value with
    | none => rfl
    | some value => simp [complete, reads?_cons, step?]
  | (next, second) :: fields =>
    -- the others are read when this field is among those read
    have hrest := fun value =>
      reads?_fieldsSpelled next second fields ((key, value) :: read) stack rest (by omega)
    rw [fieldsSpelled, List.cons_append, List.cons_append, hkey, List.append_assoc,
      reads?_spelled value _ _ hvalue, rereadFields]
    · cases reread value with
      | none => rfl
      | some value =>
        have hcomma : (complete value (.fields read key :: stack)).step? .comma =
            some (beforeKey ((key, value) :: read) stack) := rfl
        rw [Option.bind_some, List.cons_append, reads?_cons, hcomma, Option.bind_some, hrest]
        cases rereadFields ((next, second) :: fields) with
        | none => rfl
        | some fields => simp
    · simp
termination_by (sizeOf ((key, value) :: fields), 0)

end

end Assembly

/-! ## Texts -/

/-- The text of a value is read as the value with its numbers read anew, unless it is too deep. -/
theorem document?_write {value : Json} (hdepth : depth value ≤ maxOpen) :
    document? (write value) = reread value := by
  have hreads := Assembly.reads?_spelled value [] [] (by rw [List.length_nil]; omega)
  rw [List.append_nil] at hreads
  have hfold : (spelled value).foldlM Assembly.step? (.beforeValue []) =
      (reread value).bind fun value => some (.finished value) := hreads
  rw [document?, tokens_write, ofTokens?, hfold]
  cases reread value with
  | none => rfl
  | some value => rfl

end GameShelf.Json
