import Mathlib.Data.List.Basic
import Mathlib.Data.List.Nodup
import Mathlib.Logic.Function.Basic

/-!
# Collections searched by attributes

An item carries attributes and a secret. A query finds and deletes the items whose
attributes contain it, and creating an item with replacement overwrites the one with the
same attributes. A coding gives each key of a map a set of attributes, and the items coded
so far represent the map beside the items of others.
-/
namespace Lib

/-- An item with its attributes and its secret. -/
structure Tagged (κ ν σ : Type) where
  attributes : List (κ × ν)
  secret : σ

/-- Attribute sets that carry a common mark and of which none contains another. -/
structure Coding (ι κ ν : Type) where
  mark : List (κ × ν)
  encode : ι → List (κ × ν)
  marked : ∀ i, mark ⊆ encode i
  discriminates : ∀ i j, encode i ⊆ encode j → i = j

namespace Tagged

variable {ι κ ν σ : Type} [DecidableEq κ] [DecidableEq ν]

/-- The item has the attributes of the query, and others perhaps. -/
def Found (query : List (κ × ν)) (item : Tagged κ ν σ) : Prop := query ⊆ item.attributes

instance (query : List (κ × ν)) : DecidablePred (Found (σ := σ) query) := fun item =>
  inferInstanceAs (Decidable (query ⊆ item.attributes))

/-- The item has the same attributes, in whatever order. -/
def Identical (attributes : List (κ × ν)) (item : Tagged κ ν σ) : Prop :=
  attributes ⊆ item.attributes ∧ item.attributes ⊆ attributes

instance (attributes : List (κ × ν)) : DecidablePred (Identical (σ := σ) attributes) := fun item =>
  inferInstanceAs (Decidable (attributes ⊆ item.attributes ∧ item.attributes ⊆ attributes))

def search (query : List (κ × ν)) (items : List (Tagged κ ν σ)) : List (Tagged κ ν σ) :=
  items.filter fun item => Found query item

def delete (query : List (κ × ν)) (items : List (Tagged κ ν σ)) : List (Tagged κ ν σ) :=
  items.filter fun item => ¬ Found query item

/-- Give an item another secret when it has these attributes. -/
def overwrite (attributes : List (κ × ν)) (secret : σ) (item : Tagged κ ν σ) : Tagged κ ν σ :=
  if Identical attributes item then { item with secret := secret } else item

def create (attributes : List (κ × ν)) (secret : σ) (replace : Bool)
    (items : List (Tagged κ ν σ)) : List (Tagged κ ν σ) :=
  if replace ∧ ∃ item ∈ items, Identical attributes item then
    items.map (overwrite attributes secret)
  else items ++ [⟨attributes, secret⟩]

@[simp] theorem overwrite_attributes (attributes : List (κ × ν)) (secret : σ)
    (item : Tagged κ ν σ) : (overwrite attributes secret item).attributes = item.attributes := by
  unfold overwrite
  split <;> rfl

/-- What is decided by the attributes can be filtered before or after overwriting. -/
theorem filter_overwrite (p : List (κ × ν) → Bool) (attributes : List (κ × ν)) (secret : σ)
    (items : List (Tagged κ ν σ)) :
    (items.map (overwrite attributes secret)).filter (fun item => p item.attributes) =
      (items.filter fun item => p item.attributes).map (overwrite attributes secret) := by
  -- Overwriting changes no attributes, so the filter decides the same on both sides.
  rw [List.filter_map]
  congr 1
  apply List.filter_congr
  intro item _
  simp

/-! ### A map in a collection -/

/-- The items found by the code of a key are the one entry of the key, if any, and every
marked item is coded. -/
structure Represents (c : Coding ι κ ν) (items : List (Tagged κ ν σ)) (m : ι → Option σ) :
    Prop where
  coded : ∀ item ∈ items, Found c.mark item → ∃ i, item.attributes = c.encode i
  entry : ∀ i, search (c.encode i) items = (m i).toList.map fun s => ⟨c.encode i, s⟩

/-- The items of others. -/
def foreign (c : Coding ι κ ν) (items : List (Tagged κ ν σ)) : List (Tagged κ ν σ) :=
  items.filter fun item => ¬ Found c.mark item

variable {c : Coding ι κ ν} {items : List (Tagged κ ν σ)} {m : ι → Option σ}

/-- A collection without marked items represents the empty map. -/
theorem represents_foreign (unmarked : ∀ item ∈ items, ¬ Found c.mark item) :
    Represents c items fun _ => none where
  coded item member marked := absurd marked (unmarked item member)
  entry i := by
    apply List.filter_eq_nil_iff.mpr
    intro item member found
    have holds : Found (c.encode i) item := of_decide_eq_true found
    exact unmarked item member (List.Subset.trans (c.marked i) holds)

omit [DecidableEq κ] [DecidableEq ν] in
theorem found_code_iff (i j : ι) (s : σ) :
    Found (c.encode i) (⟨c.encode j, s⟩ : Tagged κ ν σ) ↔ i = j := by
  constructor
  · exact c.discriminates i j
  · rintro rfl
    exact List.Subset.refl _

omit [DecidableEq κ] [DecidableEq ν] in
theorem identical_code_iff (i j : ι) (s : σ) :
    Identical (c.encode i) (⟨c.encode j, s⟩ : Tagged κ ν σ) ↔ i = j := by
  constructor
  · exact fun same => c.discriminates i j same.1
  · rintro rfl
    exact ⟨List.Subset.refl _, List.Subset.refl _⟩

/-- The entry of a key is in the collection as one item. -/
theorem Represents.mem_iff (represents : Represents c items m) (i : ι) (s : σ) :
    ⟨c.encode i, s⟩ ∈ items ↔ m i = some s := by
  have found : (⟨c.encode i, s⟩ : Tagged κ ν σ) ∈ search (c.encode i) items ↔
      ⟨c.encode i, s⟩ ∈ items := by
    simp [search, found_code_iff]
  rw [← found, represents.entry i]
  cases m i with
  | none => simp
  | some s' => simp [eq_comm]

/-- A marked item is the entry of its key. -/
theorem Represents.of_marked (represents : Represents c items m) {item : Tagged κ ν σ}
    (member : item ∈ items) (marked : Found c.mark item) :
    ∃ i, item = ⟨c.encode i, item.secret⟩ ∧ m i = some item.secret := by
  obtain ⟨i, code⟩ := represents.coded item member marked
  have shape : item = ⟨c.encode i, item.secret⟩ := by
    cases item
    simp_all
  exact ⟨i, shape, (represents.mem_iff i item.secret).mp (shape ▸ member)⟩

/-- An item with the attributes of a code is the entry of that key. -/
theorem Represents.identical_iff (represents : Represents c items m) (i : ι) :
    (∃ item ∈ items, Identical (c.encode i) item) ↔ m i ≠ none := by
  constructor
  · rintro ⟨item, member, same⟩
    have marked : Found c.mark item := List.Subset.trans (c.marked i) same.1
    obtain ⟨j, shape, entry⟩ := represents.of_marked member marked
    rw [shape, identical_code_iff] at same
    simp [same, entry]
  · intro present
    obtain ⟨s, entry⟩ := Option.ne_none_iff_exists'.mp present
    exact ⟨_, (represents.mem_iff i s).mpr entry, (identical_code_iff i i s).mpr rfl⟩

theorem overwrite_code [DecidableEq ι] (i j : ι) (s s' : σ) :
    overwrite (c.encode i) s ⟨c.encode j, s'⟩ = ⟨c.encode j, if i = j then s else s'⟩ := by
  unfold overwrite
  simp only [identical_code_iff]
  split <;> rfl

/-- Creating an entry with replacement updates the map. -/
theorem Represents.create [DecidableEq ι] (represents : Represents c items m) (i : ι) (s : σ) :
    Represents c (create (c.encode i) s true items) (Function.update m i (some s)) := by
  unfold Tagged.create
  simp only [true_and, represents.identical_iff]
  split
  next present =>
    -- The item that is there is overwritten, and the others stay.
    constructor
    · intro item member marked
      obtain ⟨before, there, rfl⟩ := List.mem_map.mp member
      simp only [Found, overwrite_attributes] at marked ⊢
      exact represents.coded before there marked
    · intro j
      have moved := filter_overwrite (fun attributes => decide (c.encode j ⊆ attributes))
        (c.encode i) s items
      have searched : search (c.encode j) (items.map (overwrite (c.encode i) s)) =
          (search (c.encode j) items).map (overwrite (c.encode i) s) := moved
      rw [searched, represents.entry j, List.map_map]
      obtain ⟨old, entry⟩ := Option.ne_none_iff_exists'.mp present
      -- The key that is created gets the new secret, every other key keeps its own.
      by_cases same : j = i
      · subst same
        simp [entry, overwrite_code]
      · rw [Function.update_of_ne same]
        apply List.map_congr_left
        intro s' _
        simp [overwrite_code, Ne.symm same]
  next absent =>
    -- Nothing has these attributes, and an item is added.
    have none_there : m i = none := not_not.mp absent
    constructor
    · intro item member marked
      rcases List.mem_append.mp member with there | new
      · exact represents.coded item there marked
      · exact ⟨i, by simp [List.mem_singleton.mp new]⟩
    · intro j
      -- A search looks through the old items and the new one.
      have searched : search (c.encode j) (items ++ [⟨c.encode i, s⟩]) =
          search (c.encode j) items ++ search (c.encode j) [⟨c.encode i, s⟩] :=
        List.filter_append ..
      rw [searched, represents.entry j]
      by_cases same : j = i
      · subst same
        simp [none_there, search, found_code_iff]
      · simp [search, found_code_iff, same]

/-- Deleting an entry takes its key out of the map. -/
theorem Represents.delete [DecidableEq ι] (represents : Represents c items m) (i : ι) :
    Represents c (delete (c.encode i) items) (Function.update m i none) := by
  constructor
  · intro item member marked
    exact represents.coded item (List.mem_of_mem_filter member) marked
  · intro j
    -- Both are filters, so they commute.
    have swapped : search (c.encode j) (Tagged.delete (c.encode i) items) =
        Tagged.delete (c.encode i) (search (c.encode j) items) := by
      unfold search Tagged.delete
      rw [List.filter_filter, List.filter_filter]
      apply List.filter_congr
      intro item _
      exact Bool.and_comm ..
    rw [swapped, represents.entry j]
    by_cases same : j = i
    · subst same
      cases m j <;> simp [Tagged.delete, found_code_iff]
    · rw [Function.update_of_ne same]
      apply List.filter_eq_self.mpr
      intro item member
      obtain ⟨s, _, rfl⟩ := List.mem_map.mp member
      simp [found_code_iff, Ne.symm same]

/-! ### The items of others -/

theorem foreign_create (c : Coding ι κ ν) (i : ι) (s : σ) (replace : Bool)
    (items : List (Tagged κ ν σ)) :
    foreign c (create (c.encode i) s replace items) = foreign c items := by
  unfold create
  split
  · have moved := filter_overwrite (fun attributes => decide (¬ c.mark ⊆ attributes))
      (c.encode i) s items
    have kept : foreign c (items.map (overwrite (c.encode i) s)) =
        (foreign c items).map (overwrite (c.encode i) s) := moved
    -- An item of others lacks the mark, so it is not the one that is overwritten.
    have untouched : ∀ item ∈ foreign c items, overwrite (c.encode i) s item = item := by
      intro item member
      have unmarked : ¬ Found c.mark item := by simpa [foreign] using (List.mem_filter.mp member).2
      exact if_neg fun same => unmarked (List.Subset.trans (c.marked i) same.1)
    rw [kept, List.map_congr_left untouched, List.map_id']
  · have marked : Found c.mark (⟨c.encode i, s⟩ : Tagged κ ν σ) := c.marked i
    simp [foreign, List.filter_append, marked]

theorem foreign_delete (c : Coding ι κ ν) (i : ι) (items : List (Tagged κ ν σ)) :
    foreign c (delete (c.encode i) items) = foreign c items := by
  -- What a code finds is marked, so deleting it takes out no item of others.
  unfold foreign delete
  rw [List.filter_filter]
  apply List.filter_congr
  intro item _
  by_cases marked : Found c.mark item
  · simp [marked]
  · have not_found : ¬ Found (c.encode i) item :=
      fun found => marked (List.Subset.trans (c.marked i) found)
    simp [marked, not_found]

/-! ### All entries -/

/-- The marked items are the entries of the map, each once. -/
theorem Represents.keys [DecidableEq ι] (represents : Represents c items m)
    (decode : Tagged κ ν σ → ι) (decodes : ∀ i s, decode ⟨c.encode i, s⟩ = i) :
    ((search c.mark items).map decode).Nodup ∧
      ∀ i, i ∈ (search c.mark items).map decode ↔ m i ≠ none := by
  have there (item : Tagged κ ν σ) :
      item ∈ search c.mark items ↔ item ∈ items ∧ Found c.mark item := by
    simp [search]
  constructor
  · rw [List.nodup_iff_count_le_one]
    intro i
    -- The items that decode to a key are those that its code finds.
    have only : (search c.mark items).filter (fun item => decode item == i) =
        search (c.encode i) items := by
      unfold search
      rw [List.filter_filter]
      apply List.filter_congr
      intro item member
      by_cases marked : Found c.mark item
      · obtain ⟨j, shape, _⟩ := represents.of_marked member marked
        rw [shape, decodes]
        have marked_code : Found c.mark (⟨c.encode j, item.secret⟩ : Tagged κ ν σ) := c.marked j
        rw [decide_eq_true marked_code, Bool.and_true]
        simp only [found_code_iff, eq_comm (a := i)]
        rfl
      · have not_found : ¬ Found (c.encode i) item :=
          fun found => marked (List.Subset.trans (c.marked i) found)
        simp [marked, not_found]
    -- A key is listed as often as its code finds items, which is once at most.
    have counted : ((search c.mark items).map decode).count i =
        ((search c.mark items).filter fun item => decode item == i).length := by
      rw [List.count, List.countP_map, List.countP_eq_length_filter]
      rfl
    rw [counted, only, represents.entry i]
    cases m i <;> simp
  · intro i
    rw [List.mem_map]
    constructor
    · rintro ⟨item, member, rfl⟩
      obtain ⟨inside, marked⟩ := (there item).mp member
      obtain ⟨j, shape, entry⟩ := represents.of_marked inside marked
      rw [shape, decodes]
      simp [entry]
    · intro present
      obtain ⟨s, entry⟩ := Option.ne_none_iff_exists'.mp present
      exact ⟨⟨c.encode i, s⟩, (there _).mpr ⟨(represents.mem_iff i s).mpr entry, c.marked i⟩,
        decodes i s⟩

end Tagged
end Lib
