import GameShelf.Intake.Games
import GameShelf.Proofs.Intake.First

/-!
# Mentions of games

The lists of games in a payload, put one after the other, are one list of mentions: each is the
record of a game under the owner in whose list it stands. Who takes in the lists one by one takes
in the mentions one by one, so that what is held and what is dropped can be read off them.

* `Mention`, `takeMentions`: mentions, and taking them in from first to last.
* `takeMentions_games`: the games that are held are those of the first mentions.
* `takeMentions_notices`: every other mention leaves one notice, with the location of the first.
* `TakesMentions`: taking in records with lists of games, one by one or all together, is taking
  in their mentions.
-/

namespace GameShelf

/-- The record of a game in the list of an owner. -/
structure Mention where
  owner : Owner
  raw : Reported.Game
deriving DecidableEq

namespace Mention

/-- The identifier of the game. -/
def id (mention : Mention) : String :=
  mention.raw.id

/-- The game as its owner holds it. -/
def game (mention : Mention) : Game :=
  Game.ofReported mention.owner mention.raw

/-- The mentions of a list of an owner. -/
def ofList (owner : Owner) (list : List Reported.Game) : List Mention :=
  list.map fun raw => ⟨owner, raw⟩

@[simp] theorem game_id (mention : Mention) : mention.game.id = mention.id := rfl

@[simp] theorem game_owner (mention : Mention) : mention.game.owner = mention.owner := rfl

end Mention

/-- Takes in mentions from first to last. -/
def takeMentions (claims : Claims) : List Mention → Noted (List Game × Claims)
  | [] => pure ([], claims)
  | mention :: rest =>
    match claims.holder? mention.id with
    | some keptUnder =>
      let others := takeMentions claims rest
      ⟨others.value,
        .duplicateGame mention.id keptUnder mention.owner.location :: others.notices⟩
    | none =>
      let others := takeMentions (claims.give mention.id mention.owner.location) rest
      ⟨(mention.game :: others.value.1, others.value.2), others.notices⟩

/-! ## Lists of owners -/

theorem claimGames_eq (owner : Owner) (claims : Claims) (list : List Reported.Game) :
    claimGames owner claims list = takeMentions claims (Mention.ofList owner list) := by
  induction list generalizing claims with
  | nil => rfl
  | cons raw rest ih =>
    have hlist : Mention.ofList owner (raw :: rest) = ⟨owner, raw⟩ :: Mention.ofList owner rest :=
      rfl
    rw [hlist]
    simp only [claimGames, takeMentions, Mention.id]
    cases claims.holder? raw.id with
    | some keptUnder =>
      simp only [ih]
      rfl
    | none =>
      simp only [ih, bind, pure, Noted.andThen, Noted.plain, List.append_nil]
      rfl

/-- Mentions are taken in one after the other, whatever lists they come in. -/
theorem takeMentions_append (claims : Claims) (first second : List Mention) :
    takeMentions claims (first ++ second) =
      ⟨((takeMentions claims first).value.1 ++
          (takeMentions (takeMentions claims first).value.2 second).value.1,
        (takeMentions (takeMentions claims first).value.2 second).value.2),
       (takeMentions claims first).notices ++
         (takeMentions (takeMentions claims first).value.2 second).notices⟩ := by
  induction first generalizing claims with
  | nil => rfl
  | cons mention rest ih =>
    simp only [List.cons_append, takeMentions]
    cases claims.holder? mention.id with
    | some keptUnder => simp only [ih, List.cons_append]
    | none => simp only [ih, List.cons_append]

/-! ## What is held -/

namespace Claims

/-- The games that have an owner. -/
def games (claims : Claims) : List String :=
  claims.held.map Prod.fst

@[simp] theorem games_none : Claims.none.games = [] := rfl

@[simp] theorem games_give (claims : Claims) (game location : String) :
    (claims.give game location).games = game :: claims.games := rfl

theorem holder?_give (claims : Claims) (game location other : String) :
    (claims.give game location).holder? other =
      if other = game then some location else claims.holder? other := by
  simp only [holder?, give, List.lookup_cons]
  by_cases h : other = game
  · simp [h]
  · simp [h, beq_false_of_ne h]

theorem holder?_eq_none_iff (claims : Claims) (game : String) :
    claims.holder? game = Option.none ↔ game ∉ claims.games := by
  rw [holder?, List.lookup_eq_none_iff, games]
  constructor
  · intro h hmem
    rcases List.mem_map.mp hmem with ⟨entry, hentry, rfl⟩
    simpa using h entry hentry
  · intro h entry hentry
    rw [bne_iff_ne]
    intro heq
    exact h (heq ▸ List.mem_map_of_mem hentry)

theorem mem_games_of_holder? {claims : Claims} {game location : String}
    (h : claims.holder? game = some location) : game ∈ claims.games := by
  by_contra hnot
  rw [← holder?_eq_none_iff, h] at hnot
  exact Option.some_ne_none _ hnot

end Claims

/-- The games that are held after mentions were taken in are those of the first mentions. -/
theorem takeMentions_games (claims : Claims) (mentions : List Mention) :
    (takeMentions claims mentions).value.1 =
      (firstsAfter Mention.id claims.games mentions).map Mention.game := by
  induction mentions generalizing claims with
  | nil => rfl
  | cons mention rest ih =>
    simp only [takeMentions, firstsAfter]
    cases hholder : claims.holder? mention.id with
    | some keptUnder =>
      rw [if_pos (Claims.mem_games_of_holder? hholder)]
      exact ih claims
    | none =>
      rw [if_neg ((Claims.holder?_eq_none_iff _ _).mp hholder)]
      simp only [List.map_cons, ih, Claims.games_give]

/-- The games with an owner after mentions were taken in: those before, and those mentioned. -/
theorem mem_games_takeMentions {claims : Claims} {mentions : List Mention} {game : String} :
    game ∈ (takeMentions claims mentions).value.2.games ↔
      game ∈ claims.games ∨ game ∈ mentions.map Mention.id := by
  induction mentions generalizing claims with
  | nil => simp [takeMentions]
  | cons mention rest ih =>
    simp only [takeMentions, List.map_cons, List.mem_cons]
    cases hholder : claims.holder? mention.id with
    | some keptUnder =>
      have hheld := Claims.mem_games_of_holder? hholder
      simp only [ih]
      constructor
      · exact fun h => h.imp_right .inr
      · rintro (h | rfl | h)
        · exact .inl h
        · exact .inl hheld
        · exact .inr h
    | none =>
      simp only [ih, Claims.games_give, List.mem_cons, or_assoc]
      exact or_left_comm

/-- A game that has an owner keeps it. -/
theorem takeMentions_holder_of_some {claims : Claims} {game location : String}
    (mentions : List Mention) (h : claims.holder? game = some location) :
    (takeMentions claims mentions).value.2.holder? game = some location := by
  induction mentions generalizing claims with
  | nil => exact h
  | cons mention rest ih =>
    simp only [takeMentions]
    cases hholder : claims.holder? mention.id with
    | some keptUnder => exact ih h
    | none =>
      apply ih
      rw [Claims.holder?_give]
      have hne : game ≠ mention.id := by
        rintro rfl
        rw [hholder] at h
        exact absurd h (by simp)
      rw [if_neg hne]
      exact h

/-- The location that holds the game of a first mention is that of its owner. -/
theorem takeMentions_holder_of_first {claims : Claims} {mentions : List Mention}
    {mention : Mention} (h : mention ∈ firstsAfter Mention.id claims.games mentions) :
    (takeMentions claims mentions).value.2.holder? mention.id = some mention.owner.location := by
  induction mentions generalizing claims with
  | nil => simp [firstsAfter] at h
  | cons head rest ih =>
    simp only [takeMentions, firstsAfter] at h ⊢
    cases hholder : claims.holder? head.id with
    | some keptUnder =>
      rw [if_pos (Claims.mem_games_of_holder? hholder)] at h
      exact ih h
    | none =>
      rw [if_neg ((Claims.holder?_eq_none_iff _ _).mp hholder)] at h
      -- the first mention gives the game away, and it is kept
      rcases List.mem_cons.mp h with rfl | h
      · apply takeMentions_holder_of_some
        rw [Claims.holder?_give, if_pos rfl]
      · exact ih h

/-- Every mention that is not the first of its game leaves one notice, in their order. It names
the location that holds the game and the one that does not get it. -/
theorem takeMentions_notices (claims : Claims) (mentions : List Mention) :
    List.Forall₂
      (fun mention notice => ∃ keptUnder,
        (takeMentions claims mentions).value.2.holder? mention.id = some keptUnder ∧
        notice = .duplicateGame mention.id keptUnder mention.owner.location)
      (latersAfter Mention.id claims.games mentions) (takeMentions claims mentions).notices := by
  induction mentions generalizing claims with
  | nil => exact List.Forall₂.nil
  | cons mention rest ih =>
    simp only [takeMentions, latersAfter]
    cases hholder : claims.holder? mention.id with
    | some keptUnder =>
      rw [if_pos (Claims.mem_games_of_holder? hholder)]
      exact List.Forall₂.cons ⟨keptUnder, takeMentions_holder_of_some rest hholder, rfl⟩ (ih claims)
    | none =>
      rw [if_neg ((Claims.holder?_eq_none_iff _ _).mp hholder)]
      exact ih _

/-- From the start, the location that such a notice names first is that of the first mention. -/
theorem takeMentions_notices_first (mentions : List Mention) :
    List.Forall₂
      (fun mention notice => ∃ first ∈ firstsAfter Mention.id [] mentions,
        first.id = mention.id ∧
        notice = .duplicateGame mention.id first.owner.location mention.owner.location)
      (latersAfter Mention.id [] mentions) (takeMentions .none mentions).notices := by
  have hlater := takeMentions_notices .none mentions
  rw [Claims.games_none] at hlater
  have hmember := (List.forall₂_and_left _ _).mpr
    ⟨fun _ hmention => (latersAfter_sublist Mention.id [] mentions).subset hmention, hlater⟩
  refine List.Forall₂.imp ?_ hmember
  rintro mention notice ⟨hmention, keptUnder, hholder, rfl⟩
  obtain ⟨first, hfirst, hid⟩ :
      ∃ first ∈ firstsAfter Mention.id [] mentions, first.id = mention.id :=
    exists_mem_firstsAfter List.not_mem_nil (List.mem_map_of_mem hmention)
  -- a game has one holder, and the first mention has settled it
  have hgiven : (takeMentions .none mentions).value.2.holder? first.id =
      some first.owner.location := takeMentions_holder_of_first hfirst
  rw [hid, hholder, Option.some.injEq] at hgiven
  exact ⟨first, hfirst, hid, by rw [hgiven]⟩

/-! ## Notices about games -/

/-- Whether a notice is about a game that another location holds. -/
def Notice.isAboutGame : Notice → Bool
  | .duplicateGame .. => true
  | _ => false

/-- The notices about games among others. -/
def gameNotices (notices : List Notice) : List Notice :=
  notices.filter Notice.isAboutGame

@[simp] theorem gameNotices_nil : gameNotices [] = [] := rfl

@[simp] theorem gameNotices_append (first second : List Notice) :
    gameNotices (first ++ second) = gameNotices first ++ gameNotices second :=
  List.filter_append ..

@[simp] theorem gameNotices_orphan (id : String) (place : Option String)
    (rest : List Notice) : gameNotices (.orphan id place :: rest) = gameNotices rest := rfl

@[simp] theorem gameNotices_duplicateLocation (id : String) (rest : List Notice) :
    gameNotices (.duplicateLocation id :: rest) = gameNotices rest := rfl

@[simp] theorem gameNotices_take {α : Type} [Tag α] (fallback : α) (raw : Option String) :
    gameNotices (Tag.take fallback raw).notices = [] := by
  unfold Tag.take
  split
  · rfl
  · split <;> rfl

@[simp] theorem gameNotices_takeOptional (α : Type) [Tag α] (raw : Option String) :
    gameNotices (Tag.takeOptional α raw).notices = [] := by
  unfold Tag.takeOptional
  split
  · rfl
  · split <;> rfl

theorem gameNotices_takeMentions (claims : Claims) (mentions : List Mention) :
    gameNotices (takeMentions claims mentions).notices =
      (takeMentions claims mentions).notices := by
  induction mentions generalizing claims with
  | nil => rfl
  | cons mention rest ih =>
    simp only [takeMentions]
    cases claims.holder? mention.id with
    | some keptUnder => exact congrArg _ (ih claims)
    | none => exact ih _

/-! ## Records with lists of games -/

variable {α β : Type}

/-- Takes in records from first to last, each with what is held after those before it. -/
def takeRecords (take : Claims → α → Noted (β × Claims)) (claims : Claims) :
    List α → Noted (List β × Claims)
  | [] => pure ([], claims)
  | record :: rest => do
    let (taken, claims) ← take claims record
    let (others, claims) ← takeRecords take claims rest
    return (taken :: others, claims)

/-- Taking in a record takes in its mentions: it brings the same games, claims and notices about
games. -/
def TakesMentions (take : Claims → α → Noted (β × Claims)) (mentions : α → List Mention)
    (games : β → List Game) : Prop :=
  ∀ claims record,
    games (take claims record).value.1 = (takeMentions claims (mentions record)).value.1 ∧
      (take claims record).value.2 = (takeMentions claims (mentions record)).value.2 ∧
      gameNotices (take claims record).notices = (takeMentions claims (mentions record)).notices

/-- What holds of every record holds of all of them together. -/
theorem TakesMentions.takeRecords {take : Claims → α → Noted (β × Claims)}
    {mentions : α → List Mention} {games : β → List Game} (h : TakesMentions take mentions games) :
    TakesMentions (takeRecords take) (List.flatMap mentions) (List.flatMap games) := by
  intro claims records
  induction records generalizing claims with
  | nil => exact ⟨rfl, rfl, rfl⟩
  | cons record rest ih =>
    rcases h claims record with ⟨hgames, hclaims, hnotices⟩
    rcases ih (take claims record).value.2 with ⟨hrestGames, hrestClaims, hrestNotices⟩
    rw [hclaims] at hrestGames hrestClaims hrestNotices
    rw [List.flatMap_cons, takeMentions_append]
    refine ⟨?_, ?_, ?_⟩
    · simp only [GameShelf.takeRecords, Noted.value_bind, Noted.value_pure, List.flatMap_cons,
        hgames, hclaims, hrestGames]
    · simp only [GameShelf.takeRecords, Noted.value_bind, Noted.value_pure, hclaims, hrestClaims]
    · simp only [GameShelf.takeRecords, Noted.notices_bind, Noted.notices_pure, List.append_nil,
        gameNotices_append, hnotices, hclaims, hrestNotices]

/-- A list of games of one owner is taken in mention by mention. -/
theorem claimGames_takesMentions (owner : Owner) :
    TakesMentions (claimGames owner) (Mention.ofList owner) id := by
  intro claims list
  rw [claimGames_eq, gameNotices_takeMentions]
  exact ⟨rfl, rfl, rfl⟩

/-- What is read off every record as it is taken in is read off them in order. -/
theorem takeRecords_map {γ : Type} {take : Claims → α → Noted (β × Claims)} {seen : β → γ}
    {given : α → γ} (h : ∀ claims record, seen (take claims record).value.1 = given record)
    (claims : Claims) (records : List α) :
    (takeRecords take claims records).value.1.map seen = records.map given := by
  induction records generalizing claims with
  | nil => rfl
  | cons record rest ih =>
    simp only [takeRecords, Noted.value_bind, Noted.value_pure, List.map_cons, h, ih]

/-- Every record corresponds to what is taken in of it. -/
theorem forall₂_takeRecords {take : Claims → α → Noted (β × Claims)} {corresponds : α → β → Prop}
    (h : ∀ claims record, corresponds record (take claims record).value.1) (claims : Claims)
    (records : List α) :
    List.Forall₂ corresponds records (takeRecords take claims records).value.1 := by
  induction records generalizing claims with
  | nil => exact List.Forall₂.nil
  | cons record rest ih => exact List.Forall₂.cons (h claims record) (ih _)

/-- What is taken in of a list of records comes of one of them. -/
theorem exists_record_of_mem_takeRecords {take : Claims → α → Noted (β × Claims)}
    {claims : Claims} {records : List α} {taken : β}
    (h : taken ∈ (takeRecords take claims records).value.1) :
    ∃ record ∈ records, ∃ before, taken = (take before record).value.1 := by
  induction records generalizing claims with
  | nil => exact absurd h List.not_mem_nil
  | cons record rest ih =>
    simp only [takeRecords, Noted.value_bind, Noted.value_pure, List.mem_cons] at h
    rcases h with rfl | h
    · exact ⟨record, List.mem_cons_self, claims, rfl⟩
    · rcases ih h with ⟨other, hother, before, htaken⟩
      exact ⟨other, List.mem_cons_of_mem _ hother, before, htaken⟩

/-- What holds of every record as it is taken in holds of all of them. -/
theorem forall_mem_takeRecords {take : Claims → α → Noted (β × Claims)} (good : β → Prop)
    (h : ∀ claims record, good (take claims record).value.1) (claims : Claims) (records : List α) :
    ∀ taken ∈ (takeRecords take claims records).value.1, good taken := by
  intro taken htaken
  rcases exists_record_of_mem_takeRecords htaken with ⟨record, -, before, rfl⟩
  exact h before record

/-- The games taken in for an owner are its own. -/
theorem owner_of_mem_takeMentions {owner : Owner} {claims : Claims}
    {list : List Reported.Game} {game : Game}
    (h : game ∈ (takeMentions claims (Mention.ofList owner list)).value.1) :
    game.owner = owner := by
  rw [takeMentions_games] at h
  rcases List.mem_map.mp h with ⟨mention, hmention, rfl⟩
  have hmem := (firstsAfter_sublist _ _ _).subset hmention
  rcases List.mem_map.mp hmem with ⟨raw, -, rfl⟩
  rfl

end GameShelf
