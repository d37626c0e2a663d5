import Mathlib.Data.List.TakeWhile
import Provisioner.Log.Setup
/-!
# Filters that are a level

A text that is a level, by its name or by its number (`IsLevel`), is a filter with one directive that
is about everything (`Filter.upTo`). Such a filter shows the events up to its level, and their spans
if it lets spans pass; what comes later to set the log up again does not matter to it
(`Setup.render_applyAll`).
-/

namespace Provisioner.Log

variable {t : String} {n : Nat}

/-- A text is the name or the number of a level that lets pass up to a rank. A number with a plus in
    front is read as one behind a target only. -/
structure IsLevel (t : String) (n : Nat) : Prop where
  limit : limit? t = some n
  noPlus : t.toList.head? ≠ some '+'

/-! ### The characters of a level -/

/-- The codes of the digits and of the letters of ASCII. -/
theorem code_of_isAlphanum {c : Char} (h : c.isAlphanum = true) :
    0x30 ≤ c.toNat ∧ c.toNat ≤ 0x39 ∨ 0x41 ≤ c.toNat ∧ c.toNat ≤ 0x5a ∨
      0x61 ≤ c.toNat ∧ c.toNat ≤ 0x7a := by
  have hcode {first last : Char} (h : first.val ≤ c.val ∧ c.val ≤ last.val) :
      first.toNat ≤ c.toNat ∧ c.toNat ≤ last.toNat :=
    ⟨UInt32.le_iff_toNat_le.mp h.1, UInt32.le_iff_toNat_le.mp h.2⟩
  rcases Bool.or_eq_true_iff.mp h with hletter | hdigit
  · rcases Bool.or_eq_true_iff.mp hletter with hupper | hlower
    · have hrange : 'A'.val ≤ c.val ∧ c.val ≤ 'Z'.val := of_decide_eq_true hupper
      exact .inr (.inl (hcode hrange))
    · obtain ⟨hfirst, hlast⟩ := Bool.and_eq_true_iff.mp hlower
      have hrange : 'a'.val ≤ c.val ∧ c.val ≤ 'z'.val :=
        ⟨of_decide_eq_true hfirst, of_decide_eq_true hlast⟩
      exact .inr (.inr (hcode hrange))
  · obtain ⟨hfirst, hlast⟩ := Bool.and_eq_true_iff.mp hdigit
    have hrange : '0'.val ≤ c.val ∧ c.val ≤ '9'.val :=
      ⟨of_decide_eq_true hfirst, of_decide_eq_true hlast⟩
    exact .inl (hcode hrange)

theorem isBlank_of_isAlphanum {c : Char} (h : c.isAlphanum = true) : Text.isBlank c = false := by
  have hcode := code_of_isAlphanum h
  simp only [Text.isBlank, Text.inRanges, Text.blankRanges, List.any_cons, List.any_nil,
    Bool.or_false, Bool.or_eq_false_iff, Bool.and_eq_false_iff, decide_eq_false_iff_not]
  omega

theorem opensName_of_isAlphanum {c : Char} (h : c.isAlphanum = true) : opensName c = true := by
  have hin {ranges : List (Nat × Nat)} (first last : Nat) (hmem : (first, last) ∈ ranges)
      (hcode : first ≤ c.toNat ∧ c.toNat ≤ last) : Text.inRanges ranges c = true :=
    List.any_eq_true.mpr ⟨(first, last), hmem, by simpa using hcode⟩
  have hletter : Text.isAlphanumeric c = true := by
    rw [Text.isAlphanumeric, Bool.or_eq_true]
    rcases code_of_isAlphanum h with hcode | hcode | hcode
    · exact .inr (hin 0x30 0x39 List.mem_cons_self hcode)
    · exact .inl (hin 0x41 0x5a List.mem_cons_self hcode)
    · exact .inl (hin 0x61 0x7a (List.mem_cons_of_mem _ List.mem_cons_self) hcode)
  rw [opensName, hletter, Bool.or_true]

theorem isDigit_of_number? {cs : List Char} (h : number? cs = some n)
    (hplus : cs.head? ≠ some '+') : cs ≠ [] ∧ ∀ c ∈ cs, c.isDigit = true := by
  rw [number?, if_neg hplus] at h
  split at h
  · exact absurd h.symm (Option.some_ne_none n)
  · rename_i hdigits
    simp only [Bool.or_eq_true, Bool.not_eq_true', not_or, Bool.not_eq_false, List.all_eq_true,
      List.isEmpty_iff] at hdigits
    exact hdigits

theorem isAlpha_of_toLower {c : Char} (h : c.toLower.isAlpha = true) : c.isAlpha = true := by
  by_cases hupper : c.isUpper = true
  · exact Bool.or_eq_true_iff.mpr (.inl hupper)
  · have hsame : c.toLower = c := dif_neg fun hc => hupper (decide_eq_true hc)
    rwa [hsame] at h

/-- A name in any case is made of the letters that it has in lower case. -/
theorem isAlphanum_of_toLower {name : String} (h : t.toLower = name) (hne : name.toList ≠ [])
    (hletters : name.toList.all Char.isAlpha = true) :
    t.toList ≠ [] ∧ ∀ c ∈ t.toList, c.isAlphanum = true := by
  have hmap : t.toList.map Char.toLower = name.toList := by
    rw [← h]
    exact String.toList_map.symm
  constructor
  · intro hnil
    rw [hnil] at hmap
    exact hne hmap.symm
  · intro c hc
    have hlower : c.toLower ∈ name.toList := by
      rw [← hmap]
      exact List.mem_map_of_mem hc
    have halpha := isAlpha_of_toLower (List.all_eq_true.mp hletters _ hlower)
    rw [Char.isAlphanum, halpha, Bool.true_or]

theorem IsLevel.isAlphanum (h : IsLevel t n) :
    t.toList ≠ [] ∧ ∀ c ∈ t.toList, c.isAlphanum = true := by
  rcases h with ⟨hlimit, hplus⟩
  rw [limit?] at hlimit
  split at hlimit
  -- What is none of the six names is a number.
  case h_7 =>
    obtain ⟨hnumber, -⟩ := Option.filter_eq_some_iff.mp hlimit
    obtain ⟨hne, hdigits⟩ := isDigit_of_number? hnumber hplus
    refine ⟨hne, fun c hc => ?_⟩
    rw [Char.isAlphanum, hdigits c hc, Bool.or_true]
  all_goals
    rename_i hname
    exact isAlphanum_of_toLower hname (by decide) (by decide)

/-! ### Reading a level -/

theorem dropWhile_isBlank {cs : List Char} (h : ∀ c ∈ cs, Text.isBlank c = false) :
    cs.dropWhile Text.isBlank = cs := by
  rw [List.dropWhile_eq_self_iff]
  intro hl
  rw [h _ (List.getElem_mem hl)]
  exact Bool.false_ne_true

theorem trim_of_not_isBlank {cs : List Char} (h : ∀ c ∈ cs, Text.isBlank c = false) :
    Text.trim cs = cs := by
  have hreverse : cs.reverse.dropWhile Text.isBlank = cs.reverse :=
    dropWhile_isBlank fun c hc => h c (List.mem_reverse.mp hc)
  rw [Text.trim, dropWhile_isBlank h, Text.trimEnd, hreverse, List.reverse_reverse]

/-- An item is all that there is from its beginning on. -/
theorem onward_self (cs : List Char) : Item.onward ⟨cs, cs⟩ cs = .ok (String.ofList cs) := by
  have hcut : Text.cutAt? 0 cs = some ([], cs) := Text.cutAt?_eq_some_iff.mpr ⟨rfl, rfl⟩
  rw [Item.onward, Item.place, Nat.sub_self, Text.behind?, hcut]
  rfl

namespace IsLevel

/-- What is a mark in a filter does not stand in a level. -/
theorem not_mem (h : IsLevel t n) {c : Char} (hc : c.isAlphanum = false) : c ∉ t.toList := by
  intro hmem
  rw [h.isAlphanum.2 c hmem] at hc
  exact absurd hc Bool.noConfusion

theorem parse_directive (h : IsLevel t n) : Directive.parse t = .ok ⟨{}, n⟩ := by
  obtain ⟨hne, hchars⟩ := h.isAlphanum
  have htrim : Text.trim t.toList = t.toList :=
    trim_of_not_isBlank fun c hc => isBlank_of_isAlphanum (hchars c hc)
  have hitem : Item.ofString t = ⟨t.toList, t.toList⟩ := by rw [Item.ofString, htrim]
  have hword : Directive.readName ⟨t.toList, t.toList⟩ = .ok ⟨{}, n⟩ := by
    have hmarks : t.toList.dropWhile (fun c => c != '=' && c != '[') = [] := by
      rw [List.dropWhile_eq_nil_iff]
      intro c hc
      have hequals : c ≠ '=' := fun heq => h.not_mem (c := '=') rfl (heq ▸ hc)
      have hbracket : c ≠ '[' := fun heq => h.not_mem (c := '[') rfl (heq ▸ hc)
      rw [bne_iff_ne.mpr hequals, bne_iff_ne.mpr hbracket, Bool.and_self]
    rw [Directive.readName, hmarks, onward_self, String.ofList_toList]
    show Except.ok (Directive.ofWord t) = _
    rw [Directive.ofWord, h.limit]
  obtain ⟨c, rest, hcons⟩ := List.exists_cons_of_ne_nil hne
  have hc : c.isAlphanum = true := hchars c (hcons ▸ List.mem_cons_self)
  have hopens : c ≠ '[' := fun heq => h.not_mem (c := '[') rfl (hcons ▸ heq ▸ List.mem_cons_self)
  rw [Directive.parse, hitem]
  simp only [hcons, if_neg hopens, opensName_of_isAlphanum hc, if_true]
  rw [← hcons]
  exact hword

theorem items (h : IsLevel t n) : Filter.items t = [t] := by
  have hempty : t.toList.isEmpty = false := by
    rw [List.isEmpty_eq_false_iff]
    exact h.isAlphanum.1
  have hsplit : t.toList.splitOn ',' = [t.toList] :=
    List.splitOn_eq_singleton (h.not_mem (c := ',') rfl)
  rw [Filter.items, hsplit, List.filterMap_cons, hempty, String.ofList_toList]
  rfl

end IsLevel

namespace Filter

/-- The filter that shows all events up to a rank. -/
def upTo (n : Nat) : Filter := ⟨[⟨{}, n⟩]⟩

theorem parse_level (h : IsLevel t n) : Filter.parse t = .ok (upTo n) := by
  rw [Filter.parse, h.items, List.mapM_cons, h.parse_directive]
  rfl

theorem parseLeniently_level (h : IsLevel t n) : parseLeniently t = ([], some (upTo n)) := by
  rw [parseLeniently, h.items, sortOut, h.parse_directive]
  rfl

/-! ### Showing events -/

theorem current_upTo (n : Nat) : (upTo n).current = [⟨{}, n⟩] := rfl

theorem plain_upTo (n : Nat) : (upTo n).plain = [⟨{}, n⟩] := rfl

theorem ceiling_upTo (n : Nat) : (upTo n).ceiling = n := Nat.zero_max n

theorem allows_singleton (d : Directive) (level : Level) :
    allows [d] level = decide (level.rank ≤ d.limit) := rfl

/-- A directive about everything is about no span in particular. -/
theorem not_concerns_upTo {d : Directive} (h : d ∈ (upTo n).current) (s : Span) :
    d.scope.concerns s = false := by
  rw [current_upTo, List.mem_singleton] at h
  rw [h]
  rfl

theorem shows_upTo (n ceiling : Nat) (e : Event) :
    (upTo n).shows ceiling e = decide (e.level.rank ≤ n) := by
  have hevent : (upTo n).allowsEvent e = decide (e.level.rank ≤ n) := rfl
  have hinside : (upTo n).allowsInside ceiling e = false := by
    rw [allowsInside, Bool.and_eq_false_iff]
    refine .inr (List.any_eq_false.mpr fun d hd => ?_)
    rw [not_concerns_upTo hd, Bool.false_and]
    exact Bool.false_ne_true
  rw [shows, hevent, hinside, Bool.or_false]

/-- Spans lie below the ceiling as soon as the level lets them pass. -/
theorem showsSpan_upTo {ceiling : Nat} (h : n ≤ ceiling) (s : Span) :
    (upTo n).showsSpan ceiling s = decide (Span.level.rank ≤ n) := by
  have hconcerns : (upTo n).current.any (·.scope.concerns s) = false :=
    List.any_eq_false.mpr fun d hd => by rw [not_concerns_upTo hd]; exact Bool.false_ne_true
  rw [showsSpan, hconcerns, plain_upTo, allows_singleton, Bool.false_or]
  by_cases hspan : Span.level.rank ≤ n
  · have hceiling : Span.level.rank ≤ ceiling := Nat.le_trans hspan h
    simp only [hspan, hceiling, decide_true, Bool.and_self]
  · simp only [hspan, decide_false, Bool.and_false]

theorem render_upTo {ceiling : Nat} (h : n ≤ ceiling) (events : List Event) :
    (upTo n).render ceiling events =
      (events.filter (·.level.rank ≤ n)).map (·.text (Span.level.rank ≤ n)) := by
  have hshows : (upTo n).shows ceiling = fun e => decide (e.level.rank ≤ n) :=
    funext (shows_upTo n ceiling)
  have htext (e : Event) :
      e.text ((upTo n).showsSpan ceiling e.span) = e.text (Span.level.rank ≤ n) := by
    rw [showsSpan_upTo h]
  rw [render, hshows, List.map_congr_left fun e _ => htext e]

end Filter

/-! ### Setting up with a level -/

namespace Setup

variable {environment : Option String}

/-- The filter of a setup is a level: the environment holds it, or it is the default and the
    environment holds no text that can be read. -/
def HasLevel (environment : Option String) (s : Setup) (n : Nat) : Prop :=
  (∃ t, environment = some t ∧ IsLevel t n) ∨
    IsLevel s.fallback n ∧ ∀ t, environment = some t → ∃ p, Filter.parse t = refuse p

theorem filter?_of_hasLevel {s : Setup} (h : s.HasLevel environment n) :
    s.filter? environment = ([], some (Filter.upTo n)) := by
  rcases h with ⟨t, rfl, ht⟩ | ⟨hfallback, hunread⟩
  · rw [filter?, Option.map_some, Filter.parse_level ht]
  · cases environment with
    | none =>
      rw [filter?, Option.map_none]
      exact Filter.parseLeniently_level hfallback
    | some t =>
      obtain ⟨p, hp⟩ := hunread t rfl
      rw [filter?, Option.map_some, hp]
      exact Filter.parseLeniently_level hfallback

/-- The filter of a log stays when it is set up again. -/
theorem active_apply (environment : Option String) {log : Output} {active : Active}
    (h : log.active = some active) (s : Setup) :
    ∃ late, (s.apply environment log).2.active = some ⟨active.filter, late⟩ := by
  rw [apply]
  rcases s.filter? environment with ⟨notices, filter | filter⟩
  · exact ⟨active.late, h⟩
  · refine ⟨some filter, ?_⟩
    show some (activate filter log.active) = _
    rw [h, activate]

theorem active_applyAll (environment : Option String) {log : Output} {active : Active}
    (h : log.active = some active) (setups : List Setup) :
    ∃ late, (applyAll environment log setups).2.active = some ⟨active.filter, late⟩ := by
  induction setups generalizing log active with
  | nil => exact ⟨active.late, h⟩
  | cons s setups ih =>
    obtain ⟨late, hlate⟩ := active_apply environment h s
    have hrest := ih hlate
    exact hrest

theorem filter_le_ceiling (active : Active) : active.filter.ceiling ≤ active.ceiling := by
  rcases active with ⟨filter, _ | late⟩
  · exact Nat.le_refl _
  · exact Nat.le_max_left _ _

/-- A log that is first set up with a level shows the events up to that level, with their spans if
    the level lets spans pass, whoever sets it up again. -/
theorem render_applyAll {log : Output} (hlog : log.active = none) {first : Setup}
    (hfirst : first.HasLevel environment n) (later : List Setup) (events : List Event) :
    (applyAll environment log (first :: later)).2.render events =
      (events.filter (·.level.rank ≤ n)).map (·.text (Span.level.rank ≤ n)) := by
  have hset : (first.apply environment log).2.active = some ⟨.upTo n, none⟩ := by
    rw [apply, filter?_of_hasLevel hfirst, hlog]
    rfl
  obtain ⟨late, hlate⟩ := active_applyAll environment hset later
  have hceiling : n ≤ (Active.mk (.upTo n) late).ceiling := by
    have hle := filter_le_ceiling ⟨.upTo n, late⟩
    rwa [Filter.ceiling_upTo] at hle
  show (applyAll environment (first.apply environment log).2 later).2.render events = _
  rw [Output.render, hlate]
  exact Filter.render_upTo hceiling events

end Setup

end Provisioner.Log
