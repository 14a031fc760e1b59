import LightArbiter.Resolution
import Mathlib.Data.Prod.Lex
import Mathlib.Tactic

/-!
# The outcome of resolution

To go through the users once, as resolution does, is to look for one tier after the other. So it
yields the first of the eligible users: those who are present and who may own the light by being
present, in the order of their tiers and, within a tier, of their ids. From this its stability
follows: the outcome comes out again if it is the owner that may continue.
-/

namespace LightArbiter

variable {d : Directory} {o : Occupancy} {c : Continuity} {r s w : UserRecord}

/-! ### Lists with ascending keys -/

section Ascending

variable {α : Type} {key : α → String} {l : List α} {a b : α}

/-- The first element that satisfies a predicate has the least key among those that do. -/
lemma Ascending.le_of_find? {p : α → Bool} (hl : Ascending key l) (ha : l.find? p = some a)
    (hb : b ∈ l) (hp : p b = true) : key a ≤ key b := by
  obtain ⟨-, front, back, rfl, hfront⟩ := List.find?_eq_some_iff_append.mp ha
  rcases List.mem_append.mp hb with hb | hb
  · exact absurd hp (by simpa using hfront b hb)
  · rcases List.mem_cons.mp hb with rfl | hb
    · exact String.le_refl _
    · have hlt := (List.pairwise_cons.mp (List.pairwise_append.mp hl).2.1).1 b hb
      exact String.not_lt.mp (String.lt_asymm hlt)

lemma mem_of_lookup {k : String} (h : lookup key k l = some a) : a ∈ l ∧ key a = k :=
  ⟨List.mem_of_find?_eq_some h, by simpa using List.find?_some h⟩

/-- If no two elements share a key then a key leads to the element that has it. -/
lemma lookup_eq_some_iff {k : String} (hl : (l.map key).Nodup) :
    lookup key k l = some a ↔ a ∈ l ∧ key a = k := by
  refine ⟨mem_of_lookup, ?_⟩
  rintro ⟨ha, rfl⟩
  cases h : lookup key (key a) l with
  | none => simpa using List.find?_eq_none.mp h a ha
  | some b =>
    obtain ⟨hb, hkey⟩ := mem_of_lookup h
    rw [List.inj_on_of_nodup_map hl hb ha hkey]

lemma Ascending.lookup_of_mem (hl : Ascending key l) (ha : a ∈ l) :
    lookup key (key a) l = some a :=
  (lookup_eq_some_iff hl.nodup_map).mpr ⟨ha, rfl⟩

lemma lookup_eq_none_iff {k : String} : lookup key k l = none ↔ k ∉ l.map key := by
  simp [lookup]

end Ascending

/-! ### Records of a directory -/

namespace Directory

/-- No two records share a user. -/
lemma eq_of_userId_eq (hr : r ∈ d.records) (hs : s ∈ d.records) (h : r.userId = s.userId) :
    r = s :=
  List.inj_on_of_nodup_map d.ascending.nodup_map hr hs h

/-- No two records share a sensor. -/
lemma eq_of_sensorId_eq (hr : r ∈ d.records) (hs : s ∈ d.records)
    (h : r.sensorId = s.sensorId) : r = s :=
  List.inj_on_of_nodup_map d.sensors_nodup hr hs h

lemma mem_of_user? {userId : String} (h : d.user? userId = some r) :
    r ∈ d.records ∧ r.userId = userId :=
  mem_of_lookup h

lemma user?_of_mem (hr : r ∈ d.records) : d.user? r.userId = some r :=
  d.ascending.lookup_of_mem hr

/-- The users whose sensors see somebody, in ascending order of their ids. -/
def present (d : Directory) (o : Occupancy) : List UserRecord :=
  d.records.filter fun r => o.isOccupied r.sensorId

@[simp] lemma mem_present : r ∈ d.present o ↔ r ∈ d.records ∧ o.isOccupied r.sensorId = true := by
  simp [present]

end Directory

/-! ### Eligible users -/

lemma Tier.mem_all (tier : Tier) : tier ∈ Tier.all := by
  cases tier <;> simp [Tier.all]

lemma Tier.findSome?_all {α : Type} (f : Tier → Option α) :
    Tier.all.findSome? f = (f .user1).or ((f .user2).or (f .user3)) := by
  rw [Tier.all]
  cases h₁ : f .user1 <;> cases h₂ : f .user2 <;> cases h₃ : f .user3 <;> simp [h₁, h₂, h₃]

lemma Tier.all_sorted : Tier.all.Pairwise (· < ·) := by decide

/-- The third tier is the last. -/
lemma Tier.eq_user3_of_le {tier : Tier} (h : .user3 ≤ tier) : tier = .user3 := by
  revert h
  cases tier <;> decide

/-- May the record own the light by being present? -/
def Continuity.admits (continuity : Continuity) (r : UserRecord) : Bool :=
  match r.tier with
  | .user1 => true
  | .user2 => true
  | .user3 => continuity.allows r.userId

lemma Continuity.admits_eq_true_iff :
    c.admits r = true ↔ (r.tier = .user3 → c.allows r.userId = true) := by
  rw [Continuity.admits]
  cases r.tier <;> simp

lemma Continuity.admits_of_ne_user3 (h : r.tier ≠ .user3) : c.admits r = true :=
  Continuity.admits_eq_true_iff.mpr fun h' => absurd h' h

@[simp] lemma Continuity.allows_committed {owner : Option String} {userId : String} :
    ({ committed := owner } : Continuity).allows userId = true ↔ owner = some userId := by
  simp [Continuity.allows]

@[simp] lemma Continuity.allows_retained {owner : Option String} {userId : String} :
    ({ retained := owner } : Continuity).allows userId = true ↔ owner = some userId := by
  simp [Continuity.allows]

/-- The place of a user in the order of priority: by tier, then by id. -/
def UserRecord.standing (r : UserRecord) : Tier ×ₗ String := toLex (r.tier, r.userId)

lemma UserRecord.standing_le_iff :
    r.standing ≤ s.standing ↔ r.tier < s.tier ∨ r.tier = s.tier ∧ r.userId ≤ s.userId :=
  Prod.Lex.toLex_le_toLex

/-- Where two users stand, the first no later than the second, the tiers are in that order. -/
lemma UserRecord.tier_le_of_standing_le (h : r.standing ≤ s.standing) : r.tier ≤ s.tier := by
  rcases UserRecord.standing_le_iff.mp h with hlt | ⟨heq, -⟩
  · exact Nat.le_of_lt hlt
  · exact heq ▸ Nat.le_refl _

lemma UserRecord.userId_eq_of_standing_le (h : r.standing ≤ s.standing)
    (h' : s.standing ≤ r.standing) : r.userId = s.userId := by
  rcases UserRecord.standing_le_iff.mp h with hlt | ⟨-, hle⟩
  · exact absurd (UserRecord.tier_le_of_standing_le h') (Nat.not_le_of_lt hlt)
  · rcases UserRecord.standing_le_iff.mp h' with hlt | ⟨-, hle'⟩
    · exact absurd (UserRecord.tier_le_of_standing_le h) (Nat.not_le_of_lt hlt)
    · exact String.le_antisymm hle hle'

lemma UserRecord.standing_le_refl (r : UserRecord) : r.standing ≤ r.standing :=
  UserRecord.standing_le_iff.mpr (.inr ⟨rfl, String.le_refl _⟩)

/-- May the user get the light, or go on owning it, by being present? -/
def Directory.Eligible (d : Directory) (o : Occupancy) (c : Continuity) (r : UserRecord) : Prop :=
  r ∈ d.present o ∧ c.admits r = true

namespace Directory

lemma eligible_iff :
    d.Eligible o c r ↔ r ∈ d.records ∧ o.isOccupied r.sensorId = true ∧
      (r.tier = .user3 → c.allows r.userId = true) := by
  rw [Eligible, mem_present, Continuity.admits_eq_true_iff, and_assoc]

/-! ### One tier after the other -/

/-- The first user of a tier among the present ones that may own the light. -/
def firstOf (o : Occupancy) (c : Continuity) (tier : Tier) (records : List UserRecord) :
    Option UserRecord :=
  (records.filter fun r => o.isOccupied r.sensorId).find? fun r => r.tier = tier && c.admits r

/-- The search yields the first user of the highest tier, where those who have been kept come before
those who are still to be found in their tier. -/
lemma search_eq (second third : Option UserRecord) (records : List UserRecord) :
    search o c second third records =
      (firstOf o c .user1 records).or ((second.or (firstOf o c .user2 records)).or
        (third.or (firstOf o c .user3 records))) := by
  induction records generalizing second third with
  | nil => simp [search, firstOf]
  | cons r records ih =>
    cases hpresent : o.isOccupied r.sensorId with
    | false => simp [search, firstOf, hpresent, ih]
    | true =>
      cases htier : r.tier with
      | user1 => simp [search, firstOf, Continuity.admits, hpresent, htier]
      | user2 => simp [search, firstOf, Continuity.admits, hpresent, htier, ih]
      | user3 =>
        cases hallows : c.allows r.userId <;> cases third <;>
          simp [search, firstOf, Continuity.admits, hpresent, htier, hallows, ih]

/-- To go through the users once is to look for the tiers one after the other. -/
lemma resolve_eq_findSome? :
    d.resolve o c = Tier.all.findSome? fun tier => firstOf o c tier d.records := by
  rw [resolve, search_eq, Tier.findSome?_all, Option.none_or, Option.none_or]

lemma eligible_of_firstOf {tier : Tier} (h : firstOf o c tier d.records = some r) :
    d.Eligible o c r ∧ r.tier = tier := by
  have hp := List.find?_some h
  simp only [Bool.and_eq_true, decide_eq_true_eq] at hp
  exact ⟨⟨List.mem_of_find?_eq_some h, hp.2⟩, hp.1⟩

lemma userId_le_of_firstOf {tier : Tier} (h : firstOf o c tier d.records = some w)
    (hr : d.Eligible o c r) (htier : r.tier = tier) : w.userId ≤ r.userId := by
  have hl : Ascending UserRecord.userId (d.present o) := d.ascending.filter _
  exact hl.le_of_find? h hr.1 (by simp [htier, hr.2])

lemma tier_ne_of_firstOf_eq_none {tier : Tier} (h : firstOf o c tier d.records = none)
    (hr : d.Eligible o c r) : r.tier ≠ tier := by
  intro htier
  simpa [htier, hr.2] using List.find?_eq_none.mp h r hr.1

/-- The outcome is an eligible user, and no eligible user stands before it. -/
lemma resolve_least (h : d.resolve o c = some w) :
    d.Eligible o c w ∧ ∀ r, d.Eligible o c r → w.standing ≤ r.standing := by
  rw [resolve_eq_findSome?] at h
  obtain ⟨higher, tier, lower, hall, hw, hhigher⟩ := List.findSome?_eq_some_iff.mp h
  obtain ⟨heligible, rfl⟩ := eligible_of_firstOf hw
  refine ⟨heligible, fun r hr => UserRecord.standing_le_iff.mpr ?_⟩
  have hmem : r.tier ∈ higher ++ w.tier :: lower := hall ▸ Tier.mem_all r.tier
  rcases List.mem_append.mp hmem with hr' | hr'
  · exact absurd rfl (tier_ne_of_firstOf_eq_none (hhigher _ hr') hr)
  · rcases List.mem_cons.mp hr' with heq | hr'
    · exact .inr ⟨heq.symm, userId_le_of_firstOf hw hr heq⟩
    · have hsorted : (higher ++ w.tier :: lower).Pairwise (· < ·) := hall ▸ Tier.all_sorted
      exact .inl ((List.pairwise_cons.mp (List.pairwise_append.mp hsorted).2.1).1 _ hr')

lemma resolve_eq_none_iff : d.resolve o c = none ↔ ∀ r, ¬d.Eligible o c r := by
  rw [resolve_eq_findSome?]
  constructor
  · intro h r hr
    have hnone := List.findSome?_eq_none_iff.mp h r.tier (Tier.mem_all r.tier)
    exact tier_ne_of_firstOf_eq_none hnone hr rfl
  · intro h
    refine List.findSome?_eq_none_iff.mpr fun tier _ => ?_
    cases hf : firstOf o c tier d.records with
    | none => rfl
    | some r => exact absurd (eligible_of_firstOf hf).1 (h r)

/-- Resolution yields the eligible user that stands before all others. -/
lemma resolve_eq_some_iff :
    d.resolve o c = some w ↔
      d.Eligible o c w ∧ ∀ r, d.Eligible o c r → w.standing ≤ r.standing := by
  refine ⟨resolve_least, ?_⟩
  rintro ⟨hw, hleast⟩
  cases hs : d.resolve o c with
  | none => exact absurd hw (resolve_eq_none_iff.mp hs w)
  | some s =>
    obtain ⟨hs, hleast'⟩ := resolve_least hs
    have heq := UserRecord.userId_eq_of_standing_le (hleast' w hw) (hleast s hs)
    rw [eq_of_userId_eq (mem_present.mp hs.1).1 (mem_present.mp hw.1).1 heq]

/-- The outcome is a record of the directory, of a user who is present. -/
lemma mem_of_resolve (h : d.resolve o c = some w) :
    w ∈ d.records ∧ o.isOccupied w.sensorId = true :=
  mem_present.mp (resolve_least h).1.1

/-- If a user is eligible then somebody comes out who does not stand behind that user. -/
lemma Eligible.exists_resolve_le (hr : d.Eligible o c r) :
    ∃ w, d.resolve o c = some w ∧ w.standing ≤ r.standing := by
  cases h : d.resolve o c with
  | none => exact absurd hr (resolve_eq_none_iff.mp h r)
  | some w => exact ⟨w, rfl, (resolve_least h).2 r hr⟩

/-! ### Stability -/

/-- The outcome of resolution comes out again if no other user of the third tier may continue than
the outcome itself. -/
lemma resolve_resolve {c' : Continuity}
    (hallows : ∀ r ∈ d.records, r.tier = .user3 →
      (c'.allows r.userId = true ↔ d.resolve o c = some r)) :
    d.resolve o c' = d.resolve o c := by
  cases h : d.resolve o c with
  | none =>
    refine resolve_eq_none_iff.mpr fun r hr => resolve_eq_none_iff.mp h r ?_
    rw [eligible_iff] at hr ⊢
    refine ⟨hr.1, hr.2.1, fun htier => ?_⟩
    cases h.symm.trans ((hallows r hr.1 htier).mp (hr.2.2 htier))
  | some w =>
    obtain ⟨hw, hleast⟩ := resolve_least h
    rw [eligible_iff] at hw
    refine resolve_eq_some_iff.mpr
      ⟨eligible_iff.mpr ⟨hw.1, hw.2.1, fun htier => (hallows w hw.1 htier).mpr h⟩, fun r hr => ?_⟩
    rw [eligible_iff] at hr
    by_cases htier : r.tier = .user3
    · cases h.symm.trans ((hallows r hr.1 htier).mp (hr.2.2 htier))
      exact w.standing_le_refl
    · exact hleast r (eligible_iff.mpr ⟨hr.1, hr.2.1, fun h => absurd h htier⟩)

/-- Owners that may continue are told by their ids. -/
lemma map_userId_eq_some_iff {owner : Option UserRecord} (howner : ∀ w, owner = some w → w ∈ d.records)
    (hr : r ∈ d.records) : owner.map UserRecord.userId = some r.userId ↔ owner = some r := by
  constructor
  · intro h
    obtain ⟨w, hw, hid⟩ := Option.map_eq_some_iff.mp h
    rw [hw, eq_of_userId_eq (howner w hw) hr hid]
  · rintro rfl
    rfl

/-- The outcome of resolution comes out again if it is the owner that may continue, whoever else
might have continued before. -/
lemma resolve_committed_resolve :
    d.resolve o { committed := (d.resolve o c).map UserRecord.userId } = d.resolve o c := by
  refine resolve_resolve fun r hr _ => ?_
  rw [Continuity.allows_committed]
  exact map_userId_eq_some_iff (fun w hw => (mem_of_resolve hw).1) hr

/-- The outcome of resolution also comes out again if it is kept as an owner of the third tier. -/
lemma resolve_retained_resolve :
    d.resolve o
        { retained := ((d.resolve o c).filter fun r => r.tier = .user3).map UserRecord.userId } =
      d.resolve o c := by
  refine resolve_resolve fun r hr htier => ?_
  have hlisted : ∀ w, (d.resolve o c).filter (fun r => r.tier = .user3) = some w →
      w ∈ d.records := by
    intro w hw
    exact (mem_of_resolve (Option.filter_eq_some_iff.mp hw).1).1
  rw [Continuity.allows_retained, map_userId_eq_some_iff hlisted hr, Option.filter_eq_some_iff]
  simp [htier]

/-- A present user of the third tier, if no other may continue, goes on owning the light while nobody
of a higher tier is present. -/
lemma resolve_of_user3 (hw : w ∈ d.records) (hpresent : o.isOccupied w.sensorId = true)
    (hallows : ∀ userId, c.allows userId = true ↔ w.userId = userId)
    (hnone : ∀ r ∈ d.present o, r.tier = .user3) : d.resolve o c = some w := by
  refine resolve_eq_some_iff.mpr
    ⟨eligible_iff.mpr ⟨hw, hpresent, fun _ => (hallows _).mpr rfl⟩, fun r hr => ?_⟩
  have htier := hnone r hr.1
  rw [eligible_iff] at hr
  have hid : w.userId = r.userId := (hallows _).mp (hr.2.2 htier)
  exact eq_of_userId_eq hw hr.1 hid ▸ w.standing_le_refl

/-- While a user of the first two tiers is present, it makes no difference who may continue. -/
lemma resolve_eq_of_present {c' : Continuity} (hr : r ∈ d.present o) (htier : r.tier ≠ .user3) :
    d.resolve o c' = d.resolve o c := by
  have heligible : d.Eligible o c r := ⟨hr, Continuity.admits_of_ne_user3 htier⟩
  obtain ⟨w, hw, hle⟩ := heligible.exists_resolve_le
  obtain ⟨hpresent, hleast⟩ := resolve_least hw
  have hlt : w.tier < .user3 := by
    apply Nat.lt_of_not_le
    intro h
    exact htier (Tier.eq_user3_of_le (Nat.le_trans h (UserRecord.tier_le_of_standing_le hle)))
  have hne : w.tier ≠ .user3 := by
    intro h
    exact Nat.lt_irrefl _ (h ▸ hlt)
  rw [hw]
  refine resolve_eq_some_iff.mpr ⟨⟨hpresent.1, Continuity.admits_of_ne_user3 hne⟩, ?_⟩
  intro s hs
  by_cases hs' : s.tier = .user3
  · exact UserRecord.standing_le_iff.mpr (.inl (hs' ▸ hlt))
  · exact hleast s ⟨hs.1, Continuity.admits_of_ne_user3 hs'⟩

/-- If an owner is present then, when more users have come, it makes no difference whether that owner
may continue or the one who has followed before they came. -/
lemma resolve_committed_of_more {o' : Occupancy} {owner : Option String}
    (howner : ∀ userId, owner = some userId → ∃ w ∈ d.present o, w.userId = userId)
    (hmore : ∀ r ∈ d.present o, r ∈ d.present o') :
    d.resolve o' { committed := (d.resolve o { committed := owner }).map UserRecord.userId } =
      d.resolve o' { committed := owner } := by
  cases h : d.resolve o { committed := owner } with
  | none =>
    cases owner with
    | none => rfl
    | some userId =>
      obtain ⟨w, hw, hid⟩ := howner userId rfl
      have hallows : w.tier = .user3 → ({ committed := some userId } : Continuity).allows w.userId :=
        fun _ => by rw [Continuity.allows_committed, hid]
      exact absurd ⟨hw, Continuity.admits_eq_true_iff.mpr hallows⟩ (resolve_eq_none_iff.mp h w)
  | some w =>
    have hw := (resolve_least h).1
    -- In the third tier the outcome is the owner itself; in the others it does not have to continue.
    by_cases htier : w.tier = .user3
    · have hallows := (eligible_iff.mp hw).2.2 htier
      rw [Continuity.allows_committed.mp hallows]
      rfl
    · exact resolve_eq_of_present (hmore w hw.1) htier

end Directory

end LightArbiter
