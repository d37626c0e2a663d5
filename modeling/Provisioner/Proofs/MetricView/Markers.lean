import Provisioner.Resource.MetricView
import Mathlib.Data.List.Infix
/-!
# Markers of missing views

That a view does not exist shows in the text of an error alone: one of two markers stands in it. The
text that is searched for them is put together from the state of the statement and the message of
its error. No state contains a marker, and none can begin in the state and end in the message, since
no marker has a colon; so only the message counts (`hasMissingMarker_describe`).
-/

namespace Provisioner

open Api (StatementState StatementStatus)

namespace Text

variable {part before after : List Char} {sep : Char}

theorem prefix_of_prefix_append_cons (before : List Char) (hsep : sep ∉ part)
    (h : part <+: before ++ sep :: after) : part <+: before := by
  have hwhole : before ++ [sep] <+: before ++ sep :: after :=
    (List.prefix_append_right_inj before).mpr (List.prefix_append [sep] after)
  rcases List.prefix_or_prefix_of_prefix h hwhole with hshort | hlong
  · rcases List.prefix_concat_iff.mp hshort with heq | hbefore
    · exact absurd (heq ▸ List.mem_append_right before List.mem_cons_self) hsep
    · exact hbefore
  · exact absurd (hlong.subset (List.mem_append_right before List.mem_cons_self)) hsep

/-- A text without the separator stands on one side of it. -/
theorem infix_append_cons_iff (hsep : sep ∉ part) :
    part <:+: before ++ sep :: after ↔ part <:+: before ∨ part <:+: after := by
  induction before with
  | nil =>
    rw [List.nil_append, List.infix_cons_iff]
    constructor
    · rintro (hstart | hafter)
      · exact Or.inl (prefix_of_prefix_append_cons [] hsep hstart).isInfix
      · exact Or.inr hafter
    · rintro (hnil | hafter)
      · rw [List.infix_nil.mp hnil]
        exact Or.inl List.nil_prefix
      · exact Or.inr hafter
  | cons c before ih =>
    rw [List.cons_append, List.infix_cons_iff, List.infix_cons_iff, ih, or_assoc]
    constructor
    · rintro (hstart | hrest)
      · exact Or.inl (prefix_of_prefix_append_cons (c :: before) hsep hstart)
      · exact Or.inr hrest
    · rintro (hstart | hrest)
      · exact Or.inl (hstart.trans (List.prefix_append (c :: before) (sep :: after)))
      · exact Or.inr hrest

end Text

namespace MetricView

/-- One of the two markers stands in a message. -/
def Marked (message : String) : Prop :=
  "TABLE_OR_VIEW_NOT_FOUND".toList <:+: message.toList ∨
    "RESOURCE_DOES_NOT_EXIST".toList <:+: message.toList

/-- The error of a statement has a marker in its message. -/
def ErrorMarked (status : StatementStatus) : Prop :=
  ∃ error, status.error = some error ∧ Marked error.message

theorem hasMissingMarker_iff {message : String} : hasMissingMarker message = true ↔ Marked message := by
  simp only [hasMissingMarker, missingMarkers, List.any_cons, List.any_nil, Bool.or_false,
    Bool.or_eq_true, Text.occursIn, Text.isPart_iff, Marked]

theorem not_marked_name (state : StatementState) : ¬ Marked state.name := by
  rw [← hasMissingMarker_iff]
  cases state <;> decide

theorem marked_append_iff {before after : String} :
    Marked (before ++ ": " ++ after) ↔ Marked before ∨ Marked after := by
  have hseam (marker : String) (hcolon : ':' ∉ marker.toList) (hblank : ' ' ∉ marker.toList)
      (hne : marker.toList ≠ []) :
      marker.toList <:+: (before ++ ": " ++ after).toList ↔
        marker.toList <:+: before.toList ∨ marker.toList <:+: after.toList := by
    have htext : (before ++ ": " ++ after).toList =
        before.toList ++ ':' :: ([] ++ ' ' :: after.toList) := by
      simp
    rw [htext, Text.infix_append_cons_iff hcolon, Text.infix_append_cons_iff hblank,
      List.infix_nil, or_iff_right hne]
  unfold Marked
  rw [hseam _ (by decide) (by decide) (by decide), hseam _ (by decide) (by decide) (by decide)]
  exact or_or_or_comm

/-- Of the description of a status, only the message of the error is searched with success. -/
theorem hasMissingMarker_describe {status : StatementStatus} :
    hasMissingMarker status.describe = true ↔ ErrorMarked status := by
  rw [hasMissingMarker_iff, StatementStatus.describe]
  cases herror : status.error with
  | none =>
    constructor
    · intro hmarked
      exact absurd hmarked (not_marked_name status.state)
    · rintro ⟨error, hsome, -⟩
      rw [herror] at hsome
      cases hsome
  | some error =>
    rw [marked_append_iff, or_iff_right (not_marked_name status.state)]
    constructor
    · intro hmarked
      exact ⟨error, herror, hmarked⟩
    · rintro ⟨error', hsome, hmarked⟩
      obtain rfl := Option.some.inj (herror.symm.trans hsome)
      exact hmarked

end MetricView

end Provisioner
