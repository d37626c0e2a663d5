/-!
# Dictionaries in the order of their keys

A dictionary maps strings to values and lists its entries in increasing order of their keys, each
key once. That makes its list of entries unique: two dictionaries with the same lookups are equal
(`Dict.ext_get?`), whatever was stored and removed on the way. Strings are compared character by
character, by code point.
-/

namespace Provisioner

variable {α : Type}

/-! ### Entries -/

namespace Entries

def find? (key : String) : List (String × α) → Option α
  | [] => none
  | (k, value) :: rest => if key = k then some value else find? key rest

/-- Store a value under a key: in order among the others, over an older value of that key. -/
def put (key : String) (value : α) : List (String × α) → List (String × α)
  | [] => [(key, value)]
  | (k, old) :: rest =>
      if key < k then (key, value) :: (k, old) :: rest
      else if key = k then (key, value) :: rest
      else (k, old) :: put key value rest

/-- Store all of `edits`, one after the other. -/
def overlay (entries edits : List (String × α)) : List (String × α) :=
  edits.foldl (fun sorted edit => put edit.1 edit.2 sorted) entries

/-- The entries in order of their keys; of two with one key the later. -/
def arrange (entries : List (String × α)) : List (String × α) := overlay [] entries

/-- Every key is less than those behind it. -/
abbrev Increasing (entries : List (String × α)) : Prop :=
  (entries.map Prod.fst).Pairwise (· < ·)

theorem lt_of_not_lt_of_ne {a b : String} (hlt : ¬ a < b) (hne : a ≠ b) : b < a :=
  Std.lt_of_le_of_ne (Std.not_lt.mp hlt) (Ne.symm hne)

theorem mem_keys_put {key k : String} {value : α} {entries : List (String × α)}
    (h : k ∈ (put key value entries).map Prod.fst) : k = key ∨ k ∈ entries.map Prod.fst := by
  induction entries with
  | nil => simpa [put] using h
  | cons entry rest ih =>
    obtain ⟨k', old⟩ := entry
    simp only [put] at h
    split at h
    · simpa using h
    · split at h
      · simp only [List.map_cons, List.mem_cons] at h ⊢
        rcases h with h | h
        · exact Or.inl h
        · exact Or.inr (Or.inr h)
      · simp only [List.map_cons, List.mem_cons] at h ⊢
        rcases h with h | h
        · exact Or.inr (Or.inl h)
        · rcases ih h with h | h
          · exact Or.inl h
          · exact Or.inr (Or.inr h)

theorem increasing_put {entries : List (String × α)} (h : Increasing entries) (key : String)
    (value : α) : Increasing (put key value entries) := by
  induction entries with
  | nil => simp [put, Increasing]
  | cons entry rest ih =>
    obtain ⟨k, old⟩ := entry
    simp only [Increasing, List.map_cons, List.pairwise_cons] at h
    obtain ⟨hhead, htail⟩ := h
    simp only [put]
    split
    · rename_i hlt
      simp only [Increasing, List.map_cons, List.pairwise_cons, List.mem_cons]
      refine ⟨?_, hhead, htail⟩
      rintro k' (rfl | hk')
      · exact hlt
      · exact Std.lt_trans hlt (hhead k' hk')
    · split
      · rename_i _ heq
        subst heq
        simpa only [Increasing, List.map_cons, List.pairwise_cons] using ⟨hhead, htail⟩
      · rename_i hlt hne
        simp only [Increasing, List.map_cons, List.pairwise_cons]
        refine ⟨?_, ih htail⟩
        intro k' hk'
        rcases mem_keys_put hk' with rfl | hk'
        · exact lt_of_not_lt_of_ne hlt hne
        · exact hhead k' hk'

theorem increasing_overlay {entries : List (String × α)} (h : Increasing entries)
    (edits : List (String × α)) : Increasing (overlay entries edits) := by
  induction edits generalizing entries with
  | nil => exact h
  | cons edit edits ih => exact ih (increasing_put h edit.1 edit.2)

theorem find?_put (key k : String) (value : α) (entries : List (String × α)) :
    find? k (put key value entries) = if k = key then some value else find? k entries := by
  induction entries with
  | nil => simp [put, find?]
  | cons entry rest ih =>
    obtain ⟨k', old⟩ := entry
    simp only [put]
    split
    · simp [find?]
    · split
      · rename_i _ heq
        subst heq
        by_cases hk : k = key <;> simp [find?, hk]
      · rename_i _ hne
        by_cases hk' : k = k'
        · subst hk'
          simp [find?, Ne.symm hne]
        · simp [find?, hk', ih]

theorem find?_eq_none {entries : List (String × α)} {k : String}
    (h : ∀ k' ∈ entries.map Prod.fst, k < k') : find? k entries = none := by
  induction entries with
  | nil => rfl
  | cons entry rest ih =>
    obtain ⟨k', value⟩ := entry
    simp only [List.map_cons, List.mem_cons, forall_eq_or_imp] at h
    have hne : k ≠ k' := fun e => Std.lt_irrefl (e ▸ h.1)
    simp [find?, hne, ih h.2]

theorem find?_filter_ne (key k : String) (entries : List (String × α)) :
    find? k (entries.filter (fun entry => entry.1 ≠ key)) =
      if k = key then none else find? k entries := by
  induction entries with
  | nil => simp [find?]
  | cons entry rest ih =>
    obtain ⟨k', value⟩ := entry
    by_cases h' : k' = key
    · subst h'
      rw [List.filter_cons_of_neg (by simp), ih]
      by_cases hk : k = k' <;> simp [find?, hk]
    · rw [List.filter_cons_of_pos (by simpa using h')]
      by_cases hk : k = k'
      · subst hk
        simp [find?, h']
      · simp only [find?, hk, if_false, ih]

end Entries

/-! ### Dictionaries -/

structure Dict (α : Type) where
  entries : List (String × α)
  increasing : Entries.Increasing entries

namespace Dict

instance [DecidableEq α] : DecidableEq (Dict α) := fun a b =>
  decidable_of_iff (a.entries = b.entries) ⟨fun h => by cases a; cases b; simp_all, fun h => h ▸ rfl⟩

instance [Repr α] : Repr (Dict α) := ⟨fun d n => reprPrec d.entries n⟩

def empty : Dict α := ⟨[], List.Pairwise.nil⟩

instance : Inhabited (Dict α) := ⟨empty⟩

def get? (d : Dict α) (key : String) : Option α := Entries.find? key d.entries

def insert (d : Dict α) (key : String) (value : α) : Dict α :=
  ⟨Entries.put key value d.entries, Entries.increasing_put d.increasing key value⟩

def erase (d : Dict α) (key : String) : Dict α :=
  ⟨d.entries.filter (fun entry => entry.1 ≠ key),
    d.increasing.sublist (List.filter_sublist.map Prod.fst)⟩

def keys (d : Dict α) : List String := d.entries.map Prod.fst

/-- The dictionary of a list of entries, in which the last one of a key counts. -/
def ofList (entries : List (String × α)) : Dict α :=
  ⟨Entries.arrange entries, Entries.increasing_overlay List.Pairwise.nil entries⟩

@[simp] theorem get?_empty (key : String) : (empty : Dict α).get? key = none := rfl

theorem get?_insert (d : Dict α) (key k : String) (value : α) :
    (d.insert key value).get? k = if k = key then some value else d.get? k :=
  Entries.find?_put key k value d.entries

@[simp] theorem get?_insert_self (d : Dict α) (key : String) (value : α) :
    (d.insert key value).get? key = some value := by
  simp [get?_insert]

theorem get?_erase (d : Dict α) (key k : String) :
    (d.erase key).get? k = if k = key then none else d.get? k :=
  Entries.find?_filter_ne key k d.entries

@[simp] theorem get?_erase_self (d : Dict α) (key : String) : (d.erase key).get? key = none := by
  simp [get?_erase]

/-- The listing is strictly increasing, so that no key is in it twice. -/
theorem keys_increasing (d : Dict α) : d.keys.Pairwise (· < ·) := d.increasing

theorem mem_keys_iff (d : Dict α) (key : String) : key ∈ d.keys ↔ (d.get? key).isSome := by
  obtain ⟨entries, increasing⟩ := d
  simp only [keys, get?]
  clear increasing
  induction entries with
  | nil => simp [Entries.find?]
  | cons entry rest ih =>
    obtain ⟨k, value⟩ := entry
    by_cases h : key = k
    · simp [Entries.find?, h]
    · rw [List.map_cons, List.mem_cons, ih]
      simp [Entries.find?, h]

/-- Dictionaries with the same lookups are equal. -/
theorem ext_get? {a b : Dict α} (h : ∀ key, a.get? key = b.get? key) : a = b := by
  obtain ⟨as, ha⟩ := a
  obtain ⟨bs, hb⟩ := b
  simp only [get?] at h
  suffices as = bs by subst this; rfl
  induction as generalizing bs with
  | nil =>
    cases bs with
    | nil => rfl
    | cons entry rest => simpa [Entries.find?] using h entry.1
  | cons entry rest ih =>
    obtain ⟨k, v⟩ := entry
    cases bs with
    | nil => simpa [Entries.find?] using h k
    | cons entry' rest' =>
      obtain ⟨k', v'⟩ := entry'
      simp only [Entries.Increasing, List.map_cons, List.pairwise_cons] at ha hb
      have hk : k = k' := by
        rcases Std.lt_trichotomy k k' with hlt | heq | hgt
        · have hnone : Entries.find? k ((k', v') :: rest') = none := by
            apply Entries.find?_eq_none
            simp only [List.map_cons, List.mem_cons, forall_eq_or_imp]
            exact ⟨hlt, fun x hx => Std.lt_trans hlt (hb.1 x hx)⟩
          have hsome := h k
          rw [hnone] at hsome
          simp [Entries.find?] at hsome
        · exact heq
        · have hnone : Entries.find? k' ((k, v) :: rest) = none := by
            apply Entries.find?_eq_none
            simp only [List.map_cons, List.mem_cons, forall_eq_or_imp]
            exact ⟨hgt, fun x hx => Std.lt_trans hgt (ha.1 x hx)⟩
          have hsome := h k'
          rw [hnone] at hsome
          simp [Entries.find?] at hsome
      subst hk
      have hv : v = v' := by simpa [Entries.find?] using h k
      subst hv
      have hrest : rest = rest' := by
        apply ih ha.2 rest' hb.2
        intro key
        by_cases hkey : key = k
        · subst hkey
          rw [Entries.find?_eq_none ha.1, Entries.find?_eq_none hb.1]
        · simpa [Entries.find?, hkey] using h key
      rw [hrest]

theorem erase_insert_self (d : Dict α) (key : String) (value : α) :
    (d.insert key value).erase key = d.erase key := by
  apply ext_get?
  intro k
  by_cases hk : k = key <;> simp [get?_erase, get?_insert, hk]

theorem erase_eq_self {d : Dict α} {key : String} (h : d.get? key = none) : d.erase key = d := by
  apply ext_get?
  intro k
  rw [get?_erase]
  by_cases hk : k = key
  · rw [if_pos hk, hk, h]
  · rw [if_neg hk]

/-! ### Dictionaries of lists -/

theorem ofList_append_singleton (entries : List (String × α)) (key : String) (value : α) :
    ofList (entries ++ [(key, value)]) = (ofList entries).insert key value := by
  simp only [ofList, Entries.arrange, Entries.overlay, List.foldl_append]
  rfl

theorem get?_ofList (entries : List (String × α)) (key : String) :
    (ofList entries).get? key =
      ((entries.filter fun entry => entry.1 = key).getLast?).map Prod.snd := by
  suffices h : ∀ sorted, Entries.find? key (Entries.overlay sorted entries) =
      (((entries.filter fun entry => entry.1 = key).getLast?).map Prod.snd).or
        (Entries.find? key sorted) by
    exact (h []).trans Option.or_none
  induction entries with
  | nil =>
    intro sorted
    rfl
  | cons entry rest ih =>
    obtain ⟨k, value⟩ := entry
    intro sorted
    have hstep : Entries.overlay sorted ((k, value) :: rest) =
        Entries.overlay (Entries.put k value sorted) rest := rfl
    rw [hstep, ih, Entries.find?_put]
    by_cases hk : k = key
    · subst hk
      rw [List.filter_cons_of_pos (by simp), List.getLast?_cons, if_pos rfl]
      cases (rest.filter fun entry => entry.1 = k).getLast? <;> rfl
    · rw [List.filter_cons_of_neg (by simpa using hk), if_neg (Ne.symm hk)]

theorem mem_keys_ofList {entries : List (String × α)} {key : String} :
    key ∈ (ofList entries).keys ↔ key ∈ entries.map Prod.fst := by
  rw [mem_keys_iff, get?_ofList, Option.isSome_map, List.getLast?_isSome]
  simp

end Dict

end Provisioner
