import Provisioner.Json.Record
/-!
# Values are read as they were written

States travel between calls as settled values. A codec reads back if it reads from the settled value
of `a` just `a` again (`Codec.ReadsBack`). Most codecs also never write null (`Codec.Lawful`), so
that null can stand for nothing beside them. The combinators of codecs preserve both. For records it
is the lookup of every field among the arranged members that decides (`Record.Holds`).
-/

namespace Provisioner

variable {α β : Type}

/-! ### Arranged entries -/

namespace Entries

variable {key k : String} {value : α} {entries edits : List (String × α)}

theorem find?_eq_none_of_not_mem (h : key ∉ entries.map Prod.fst) : find? key entries = none := by
  induction entries with
  | nil => rfl
  | cons entry rest ih =>
    simp only [List.map_cons, List.mem_cons, not_or] at h
    rw [find?, if_neg h.1, ih h.2]

/-- The last edit of a key counts. If no key is edited twice it is also the first one. -/
theorem find?_overlay (hnodup : (edits.map Prod.fst).Nodup) :
    find? key (overlay entries edits) = (find? key edits).or (find? key entries) := by
  induction edits generalizing entries with
  | nil => rfl
  | cons edit edits ih =>
    rcases edit with ⟨k, value⟩
    simp only [List.map_cons, List.nodup_cons] at hnodup
    have hstep : overlay entries ((k, value) :: edits) = overlay (put k value entries) edits := rfl
    rw [hstep, ih hnodup.2, find?_put, find?]
    by_cases hkey : key = k
    · subst hkey
      rw [if_pos rfl, if_pos rfl, find?_eq_none_of_not_mem hnodup.1]
      rfl
    · rw [if_neg hkey, if_neg hkey]

theorem find?_arrange (hnodup : (entries.map Prod.fst).Nodup) :
    find? key (arrange entries) = find? key entries := by
  rw [arrange, find?_overlay hnodup]
  exact Option.or_none

theorem find?_of_mem (hincreasing : Increasing entries) (h : (key, value) ∈ entries) :
    find? key entries = some value := by
  induction entries with
  | nil => exact absurd h List.not_mem_nil
  | cons entry rest ih =>
    rcases entry with ⟨k, v⟩
    simp only [Increasing, List.map_cons, List.pairwise_cons] at hincreasing
    rcases List.mem_cons.mp h with heq | hrest
    · rw [(Prod.mk.inj heq).1, (Prod.mk.inj heq).2, find?, if_pos rfl]
    · have hlt : k < key := hincreasing.1 key (List.mem_map_of_mem hrest)
      have hne : key ≠ k := fun heq => Std.lt_irrefl (heq ▸ hlt)
      rw [find?, if_neg hne, ih hincreasing.2 hrest]

/-- Entries in increasing order are arranged already. -/
theorem arrange_of_increasing (hincreasing : Increasing entries) : arrange entries = entries := by
  have hnodup : (entries.map Prod.fst).Nodup := by
    apply List.Pairwise.imp _ hincreasing
    rintro a b hlt rfl
    exact Std.lt_irrefl hlt
  have hsame : Dict.ofList entries = ⟨entries, hincreasing⟩ :=
    Dict.ext_get? fun _ => find?_arrange hnodup
  exact congrArg Dict.entries hsame

end Entries

namespace Json

/-! ### Lawful codecs -/

/-- What is written is read again. -/
def Codec.ReadsBack (c : Codec α) : Prop := ∀ a, c.decode (c.encode a).settle = .ok a

/-- What is written is read again and is not null. -/
structure Codec.Lawful (c : Codec α) : Prop where
  readsBack : c.ReadsBack
  settle_ne_null : ∀ a, (c.encode a).settle ≠ .null

namespace Codec

variable {c : Codec α}

theorem ReadsBack.ofValue_toValue (h : c.ReadsBack) (a : α) : c.ofValue (c.toValue a) = .ok a := by
  rw [ofValue, toValue, h a]
  rfl

/-- No two things are written alike. -/
theorem ReadsBack.toValue_inj (h : c.ReadsBack) {a b : α} (heq : c.toValue a = c.toValue b) :
    a = b := by
  have ha := h.ofValue_toValue a
  rw [heq, h.ofValue_toValue b] at ha
  exact (Except.ok.inj ha).symm

theorem lawful_string : string.Lawful := ⟨fun _ => rfl, fun _ => Json.noConfusion⟩

theorem lawful_boolean : boolean.Lawful := ⟨fun _ => rfl, fun _ => Json.noConfusion⟩

theorem lawful_word : word.Lawful := by
  constructor
  · intro w
    have hlt : (w.toNat : Int) < 0x100000000 := by
      have := w.toNat_lt
      omega
    have hword : UInt32.ofNat (w.toNat : Int).toNat = w := UInt32.ofNat_toNat
    simp only [word, scalar, Scalar.value, settle]
    rw [if_pos ⟨Int.natCast_nonneg _, hlt⟩, hword]
  · intro w
    exact Json.noConfusion

theorem mapM_settleItems (h : c.ReadsBack) (as : List α) :
    (settleItems (as.map c.encode)).mapM c.decode = .ok as := by
  induction as with
  | nil => rfl
  | cons a as ih =>
    rw [List.map_cons, settleItems, List.mapM_cons, h a, ih]
    rfl

theorem Lawful.list (h : c.Lawful) : c.list.Lawful := by
  constructor
  · intro as
    exact mapM_settleItems h.readsBack as
  · intro as
    exact Json.noConfusion

theorem settleMembers_map (entries : List (String × α)) :
    settleMembers (entries.map fun entry => (entry.1, c.encode entry.2)) =
      entries.map fun entry => (entry.1, c.toValue entry.2) := by
  induction entries with
  | nil => rfl
  | cons entry rest ih =>
    rw [List.map_cons, settleMembers, ih]
    rfl

theorem mapM_decodeMember (h : c.ReadsBack) (entries : List (String × α)) :
    (entries.map fun entry => (entry.1, c.toValue entry.2)).mapM (fun member => do
      return (member.1, ← c.decode member.2)) = .ok entries := by
  induction entries with
  | nil => rfl
  | cons entry rest ih =>
    rw [List.map_cons, List.mapM_cons, ih]
    simp only [toValue, h entry.2]
    rfl

/-- The entries of a dictionary are written in their order, and so read as they are. -/
theorem Lawful.dict (h : c.Lawful) : c.dict.Lawful := by
  constructor
  · intro d
    have hincreasing :
        Entries.Increasing (d.entries.map fun entry => (entry.1, c.toValue entry.2)) := by
      rw [Entries.Increasing, List.map_map]
      exact d.increasing
    have hsettled : (c.dict.encode d).settle =
        .object (d.entries.map fun entry => (entry.1, c.toValue entry.2)) := by
      show Json.object (Entries.arrange (settleMembers _)) = _
      rw [settleMembers_map, Entries.arrange_of_increasing hincreasing]
    have hdict : Dict.ofList d.entries = d := by
      apply Dict.ext_get?
      intro key
      exact congrArg (Entries.find? key) (Entries.arrange_of_increasing d.increasing)
    rw [hsettled]
    simp only [Codec.dict, mapM_decodeMember h.readsBack]
    exact congrArg Except.ok hdict
  · intro d
    exact Json.noConfusion

theorem Lawful.nullAs (h : c.Lawful) (absent : α) : (c.nullAs absent).Lawful := by
  refine ⟨fun a => ?_, h.settle_ne_null⟩
  have hne := h.settle_ne_null a
  show (c.nullAs absent).decode (c.encode a).settle = .ok a
  unfold Codec.nullAs
  dsimp only
  split
  · rename_i hnull
    exact absurd hnull hne
  · exact h.readsBack a

theorem Lawful.option (h : c.Lawful) : c.option.ReadsBack := by
  intro a
  cases a with
  | none => rfl
  | some a =>
    have hne := h.settle_ne_null a
    have hdecode := h.readsBack a
    show c.option.decode (c.encode a).settle = .ok (some a)
    unfold Codec.option
    dsimp only
    split
    · rename_i hnull
      exact absurd hnull hne
    · rw [hdecode]
      rfl

theorem Lawful.map (h : c.Lawful) {f : α → β} {g : β → α} (hinverse : ∀ b, f (g b) = b) :
    (c.map f g).Lawful := by
  constructor
  · intro b
    show (c.decode (c.encode (g b)).settle).map f = .ok b
    rw [h.readsBack, Except.map, hinverse]
  · intro b
    exact h.settle_ne_null (g b)

end Codec

/-! ### Records -/

namespace Record

/-- Every content is read as it was written, or is what its absence stands for. -/
def ReadsBack : List Field → Prop
  | [] => True
  | field :: fields =>
      (field.codec.ReadsBack ∧
        ∀ content, field.omitted content = true → field.absent = some content) ∧
      ReadsBack fields

/-- Every content of a row that is not left out is found under its name. -/
def Holds : (fields : List Field) → Row fields → Members → Prop
  | [], _, _ => True
  | field :: fields, (content, row), ms =>
      (Entries.find? field.name ms =
        if field.omitted content then none else some (field.codec.encode content).settle) ∧
      Holds fields row ms

variable {ms : Members} {name : String}

theorem complete_draft : (fields : List Field) → ReadsBack fields → (row : Row fields) →
    Holds fields row ms → complete fields (draft fields ms) = .ok row
  | [], _, (), _ => rfl
  | field :: fields, hback, (content, row), hholds => by
    have ih := complete_draft fields hback.2 row hholds.2
    rw [draft, hholds.1]
    by_cases homitted : field.omitted content = true
    · have habsent := hback.1.2 content homitted
      simp [complete, homitted, whenAbsent, habsent, ih, Except.map]
    · simp [complete, homitted, hback.1.1 content, ih, Except.toOption, Except.map]

theorem refusal?_eq_none {v : Json} : (fields : List Field) → ReadsBack fields →
    (row : Row fields) → Holds fields row ms → Entries.find? name ms = some v →
    refusal? fields (name, v) = none
  | [], _, _, _, _ => rfl
  | field :: fields, hback, (content, row), hholds, hfind => by
    have ih := refusal?_eq_none fields hback.2 row hholds.2 hfind
    rw [refusal?, List.findSome?_cons]
    by_cases hname : field.name = name
    · have hfound := hholds.1
      rw [hname, hfind] at hfound
      by_cases homitted : field.omitted content = true
      · simp [homitted] at hfound
      · simp only [homitted, Bool.false_eq_true, if_false, Option.some.injEq] at hfound
        rw [if_pos hname, hfound, hback.1.1 content, ← hfound]
        exact ih
    · rw [if_neg hname]
      exact ih

theorem settleMembers_keys (ms : Members) : (settleMembers ms).map Prod.fst = ms.map Prod.fst := by
  induction ms with
  | nil => rfl
  | cons m ms ih => rw [settleMembers, List.map_cons, List.map_cons, ih]

theorem mem_members_keys : (fields : List Field) → (row : Row fields) →
    name ∈ (members fields row).map Prod.fst → name ∈ fields.map Field.name
  | [], _, h => absurd h List.not_mem_nil
  | field :: fields, (content, row), h => by
    rw [members] at h
    split at h
    · exact List.mem_cons_of_mem _ (mem_members_keys fields row h)
    · rcases List.mem_cons.mp h with rfl | h
      · exact List.mem_cons_self
      · exact List.mem_cons_of_mem _ (mem_members_keys fields row h)

theorem nodup_members_keys : (fields : List Field) → (row : Row fields) →
    (fields.map Field.name).Nodup → ((members fields row).map Prod.fst).Nodup
  | [], _, _ => List.nodup_nil
  | field :: fields, (content, row), hnodup => by
    simp only [List.map_cons, List.nodup_cons] at hnodup
    have ih := nodup_members_keys fields row hnodup.2
    rw [members]
    split
    · exact ih
    · exact List.nodup_cons.mpr ⟨fun h => hnodup.1 (mem_members_keys fields row h), ih⟩

/-- One more member whose name no field has hides nothing. -/
theorem holds_cons {v : Json} : (fields : List Field) → (row : Row fields) →
    name ∉ fields.map Field.name → Holds fields row ms → Holds fields row ((name, v) :: ms)
  | [], _, _, _ => trivial
  | field :: fields, (content, row), hname, hholds => by
    simp only [List.map_cons, List.mem_cons, not_or] at hname
    refine ⟨?_, holds_cons fields row hname.2 hholds.2⟩
    rw [Entries.find?, if_neg (Ne.symm hname.1), hholds.1]

theorem holds_settleMembers : (fields : List Field) → (row : Row fields) →
    (fields.map Field.name).Nodup → Holds fields row (settleMembers (members fields row))
  | [], _, _ => trivial
  | field :: fields, (content, row), hnodup => by
    simp only [List.map_cons, List.nodup_cons] at hnodup
    have ih := holds_settleMembers fields row hnodup.2
    rw [members]
    split
    · rename_i homitted
      refine ⟨?_, ih⟩
      rw [if_pos homitted]
      refine Entries.find?_eq_none_of_not_mem fun h => hnodup.1 (mem_members_keys fields row ?_)
      rwa [settleMembers_keys] at h
    · rename_i homitted
      refine ⟨?_, holds_cons fields row hnodup.1 ih⟩
      rw [if_neg homitted, settleMembers, Entries.find?, if_pos rfl]

theorem holds_arrange (hnodup : (ms.map Prod.fst).Nodup) : (fields : List Field) →
    (row : Row fields) → Holds fields row ms → Holds fields row (Entries.arrange ms)
  | [], _, _ => trivial
  | _ :: fields, (_, row), hholds =>
    ⟨(Entries.find?_arrange hnodup).trans hholds.1, holds_arrange hnodup fields row hholds.2⟩

/-- A record is read from its settled value as it was written. -/
theorem lawful_record {record : String} {fields : List Field} (hback : ReadsBack fields)
    (hnodup : (fields.map Field.name).Nodup) : (Codec.record record fields).Lawful := by
  refine ⟨fun row => ?_, fun row => Json.noConfusion⟩
  have hkeys : ((settleMembers (members fields row)).map Prod.fst).Nodup := by
    rw [settleMembers_keys]
    exact nodup_members_keys fields row hnodup
  have hholds := holds_arrange hkeys fields row (holds_settleMembers fields row hnodup)
  have hincreasing : Entries.Increasing (Entries.arrange (settleMembers (members fields row))) :=
    Entries.increasing_overlay List.Pairwise.nil _
  have hrefusal : (Entries.arrange (settleMembers (members fields row))).findSome?
      (refusal? fields) = none := by
    rw [List.findSome?_eq_none_iff]
    rintro ⟨name, v⟩ hmem
    exact refusal?_eq_none fields hback row hholds (Entries.find?_of_mem hincreasing hmem)
  show ofMembers fields (Entries.arrange (settleMembers (members fields row))) = .ok row
  rw [ofMembers, hrefusal]
  exact complete_draft fields hback row hholds

end Record

end Json

end Provisioner
