import GameShelf.Intake.Storefronts
import GameShelf.Proofs.Intake.Mention

/-!
# Storefronts of a payload

Of the records with one identifier the first is kept, and the kept ones are taken in one after
the other.

* `Storefront.takesMentions`: a storefront takes in the games that its record mentions.
* `takeStorefronts_value`, `takeStorefronts_mentions`: what becomes of a list of records, and
  of the games in it.
* `takeStorefronts_free`: nothing is lost where all identifiers are different.
-/

namespace GameShelf

theorem Storefront.ofReported_id (claims : Claims) (raw : Reported.Storefront) :
    (Storefront.ofReported claims raw).value.1.id = raw.id := rfl

/-- A storefront takes in the games that its record mentions. -/
theorem Storefront.takesMentions :
    TakesMentions Storefront.ofReported
      (fun raw => Mention.ofList (.storefront raw.id) raw.games) Storefront.games := by
  intro claims raw
  rcases claimGames_takesMentions (.storefront raw.id) claims raw.games with
    ⟨hgames, hclaims, hnotices⟩
  simp [Storefront.ofReported, hclaims, hnotices]
  exact hgames

/-- A storefront holds its games as their owner. -/
theorem Storefront.owner_ofReported (claims : Claims) (raw : Reported.Storefront) :
    ∀ game ∈ (Storefront.ofReported claims raw).value.1.games, game.owner = .storefront raw.id := by
  intro game hgame
  rw [(Storefront.takesMentions claims raw).1] at hgame
  exact owner_of_mem_takeMentions hgame

/-- The records of storefronts that are kept: the first of each identifier. -/
def keptStorefronts (raws : List Reported.Storefront) : List Reported.Storefront :=
  firstsAfter Reported.Storefront.id [] raws

theorem addStorefronts_eq (kept : List Storefront) (claims : Claims)
    (raws : List Reported.Storefront) :
    let firsts := firstsAfter Reported.Storefront.id (kept.map Storefront.id) raws
    let taken := takeRecords Storefront.ofReported claims firsts
    (addStorefronts kept claims raws).value = (kept ++ taken.value.1, taken.value.2) ∧
      gameNotices (addStorefronts kept claims raws).notices = gameNotices taken.notices := by
  induction raws generalizing kept claims with
  | nil => simp [addStorefronts, firstsAfter, takeRecords]
  | cons raw rest ih =>
    simp only [addStorefronts, firstsAfter]
    have hany : (kept.any fun storefront => storefront.id == raw.id) = true ↔
        raw.id ∈ kept.map Storefront.id := by
      simp [List.any_eq_true, List.mem_map]
    by_cases hmem : raw.id ∈ kept.map Storefront.id
    · rw [if_pos (hany.mpr hmem), if_pos hmem]
      rcases ih kept claims with ⟨hvalue, hnotices⟩
      exact ⟨hvalue, by simpa using hnotices⟩
    · rw [if_neg (fun h => hmem (hany.mp h)), if_neg hmem]
      obtain ⟨hvalue, hnotices⟩ := ih (kept ++ [(Storefront.ofReported claims raw).value.1])
        (Storefront.ofReported claims raw).value.2
      have hids : ∀ id,
          id ∈ (kept ++ [(Storefront.ofReported claims raw).value.1]).map Storefront.id ↔
            id ∈ raw.id :: kept.map Storefront.id := by
        intro id
        rw [List.map_append, List.mem_append, List.mem_cons, or_comm]
        simp [Storefront.ofReported_id]
      rw [firstsAfter_congr _ rest hids] at hvalue hnotices
      constructor
      · simp [hvalue, takeRecords]
      · simp [hnotices, takeRecords]

/-- A list of storefronts has the kept ones. -/
theorem takeStorefronts_value (claims : Claims) (raws : List Reported.Storefront) :
    (takeStorefronts claims raws).value =
      (takeRecords Storefront.ofReported claims (keptStorefronts raws)).value :=
  (addStorefronts_eq [] claims raws).1

theorem takeStorefronts_ids (claims : Claims) (raws : List Reported.Storefront) :
    (takeStorefronts claims raws).value.1.map Storefront.id =
      (keptStorefronts raws).map Reported.Storefront.id := by
  rw [takeStorefronts_value]
  exact takeRecords_map Storefront.ofReported_id claims (keptStorefronts raws)

/-- A storefront of a list is the owner of what it holds. -/
theorem takeStorefronts_owner {claims : Claims} {raws : List Reported.Storefront}
    {storefront : Storefront} (h : storefront ∈ (takeStorefronts claims raws).value.1)
    {game : Game} (hgame : game ∈ storefront.games) : game.owner = .storefront storefront.id := by
  rw [takeStorefronts_value] at h
  exact forall_mem_takeRecords
    (fun taken => ∀ game ∈ taken.games, game.owner = .storefront taken.id)
    Storefront.owner_ofReported claims (keptStorefronts raws) storefront h game hgame

/-- The games that the record of a storefront mentions. -/
def Reported.Storefront.mentions (raw : Reported.Storefront) : List Mention :=
  Mention.ofList (.storefront raw.id) raw.games

theorem Reported.Storefront.mentions_ids (raws : List Reported.Storefront) :
    (raws.flatMap mentions).map Mention.id = (raws.flatMap games).map Reported.Game.id := by
  rw [List.map_flatMap, List.map_flatMap]
  refine List.flatMap_congr fun raw _ => ?_
  rw [mentions, Mention.ofList, List.map_map]
  rfl

/-- A list of storefronts takes in the mentions under its kept records. -/
theorem takeStorefronts_mentions (claims : Claims) (raws : List Reported.Storefront) :
    let fronts := takeStorefronts claims raws
    let taken := takeMentions claims
      ((keptStorefronts raws).flatMap fun raw => Mention.ofList (.storefront raw.id) raw.games)
    fronts.value.1.flatMap Storefront.games = taken.value.1 ∧ fronts.value.2 = taken.value.2 ∧
      gameNotices fronts.notices = taken.notices := by
  intro fronts taken
  rcases Storefront.takesMentions.takeRecords claims (keptStorefronts raws) with
    ⟨hgames, hclaims, hnotices⟩
  have hvalue : fronts.value = _ := takeStorefronts_value claims raws
  have hfronts : gameNotices fronts.notices = _ := (addStorefronts_eq [] claims raws).2
  rw [hvalue, hfronts]
  exact ⟨hgames, hclaims, hnotices⟩

/-- Storefronts with different identifiers, whose games have different identifiers and are free, are
taken in with all of them. -/
theorem takeStorefronts_free {claims : Claims} {raws : List Reported.Storefront}
    (hids : (raws.map Reported.Storefront.id).Nodup)
    (hgames : ((raws.flatMap Reported.Storefront.games).map Reported.Game.id).Nodup)
    (hfree : ∀ game ∈ raws.flatMap Reported.Storefront.games, game.id ∉ claims.games) :
    (takeStorefronts claims raws).value.1.map
        (fun storefront => (storefront.id, storefront.games.map Game.id)) =
      raws.map fun raw => (raw.id, raw.games.map Reported.Game.id) := by
  rw [takeStorefronts_value, keptStorefronts,
    firstsAfter_eq_self hids fun _ _ => List.not_mem_nil]
  clear hids
  induction raws generalizing claims with
  | nil => rfl
  | cons raw rest ih =>
    rw [List.flatMap_cons, List.map_append, List.nodup_append] at hgames
    rcases hgames with ⟨hown, hothers, hdiffer⟩
    rcases Storefront.takesMentions claims raw with ⟨hheld, hclaims, -⟩
    have hlisted : (Mention.ofList (.storefront raw.id) raw.games).map Mention.id =
        raw.games.map Reported.Game.id := by
      rw [Mention.ofList, List.map_map]
      rfl
    -- all games of the first record are free
    have hfirst : (Storefront.ofReported claims raw).value.1.games.map Game.id =
        raw.games.map Reported.Game.id := by
      rw [hheld, takeMentions_games, firstsAfter_eq_self (by rw [hlisted]; exact hown),
        List.map_map]
      · exact hlisted
      · intro mention hmention
        rcases List.mem_map.mp hmention with ⟨game, hgame, rfl⟩
        exact hfree game (List.mem_append_left _ hgame)
    -- and those of the others are still free after it
    have hstill : ∀ game ∈ rest.flatMap Reported.Storefront.games,
        game.id ∉ (Storefront.ofReported claims raw).value.2.games := by
      intro game hgame
      rw [hclaims, mem_games_takeMentions, hlisted, not_or]
      refine ⟨hfree game (List.mem_append_right _ hgame), fun hmem => ?_⟩
      exact hdiffer _ hmem _ (List.mem_map_of_mem hgame) rfl
    have hrest := ih hothers hstill
    simp only [takeRecords, Noted.value_bind, Noted.value_pure, List.map_cons, hfirst, hrest,
      Storefront.ofReported_id]

end GameShelf
