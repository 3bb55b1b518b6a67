import IdentityServer.Identifier.Redaction
import IdentityServer.Proofs.Text.Split
import Mathlib.Data.List.Forall2

/-! # What redaction hides

Of an address in a log one sees how it is divided, which segments are empty, and the first few characters of the others.
Two addresses that agree on that look the same, whatever the policy is. -/

namespace IdentityServer.RedactionPolicy
open Text
variable {policy : RedactionPolicy} {reveal : Nat} {s t user domain : List Char} {segments : List (List Char)}

/-! ### Segments -/

/-- Segments that cannot be told apart: both are empty, or none is and they begin with the same characters, as many as
    are shown and fewer than there are. -/
inductive Alike (reveal : Nat) : List Char → List Char → Prop
  | empty : Alike reveal [] []
  | shown {s t : List Char} (some_left : s ≠ []) (some_right : t ≠ [])
    (same : s.take (min reveal (s.length - 1)) = t.take (min reveal (t.length - 1))) : Alike reveal s t

/-- What is written for a segment: nothing for an empty one; else at most so many characters of its beginning, never all
    of it, and dots. -/
inductive Shows (reveal : Nat) : List Char → List Char → Prop
  | empty : Shows reveal [] []
  | start {front hidden : List Char} (some_hidden : hidden ≠ []) (few : front.length ≤ reveal) :
    Shows reveal (front ++ hidden) (front ++ ['.', '.', '.'])

theorem segment_of_ne_nil (h : s ≠ []) :
    segment reveal s = s.take (min reveal (s.length - 1)) ++ ['.', '.', '.'] := by
  rw [segment, if_neg (by simpa using h)]

theorem Alike.segment_eq (h : Alike reveal s t) : segment reveal s = segment reveal t := by
  cases h with
  | empty => rfl
  | shown some_left some_right same => rw [segment_of_ne_nil some_left, segment_of_ne_nil some_right, same]

theorem shows_segment (reveal : Nat) (s : List Char) : Shows reveal s (segment reveal s) := by
  by_cases h : s = []
  · subst h
    exact .empty
  · have short : min reveal (s.length - 1) < s.length := by
      have := List.length_pos_iff.mpr h
      omega
    have some_hidden : s.drop (min reveal (s.length - 1)) ≠ [] := fun none_hidden => by
      have := List.drop_eq_nil_iff.mp none_hidden
      omega
    have few : (s.take (min reveal (s.length - 1))).length ≤ reveal :=
      (List.length_take_le _ _).trans (Nat.min_le_left _ _)
    have shows := Shows.start some_hidden few
    rw [List.take_append_drop] at shows
    rw [segment_of_ne_nil h]
    exact shows

/-- Neither the length of a longer segment nor what comes behind the shown characters can be seen. -/
theorem alike_of_take_eq (hs : reveal < s.length) (ht : reveal < t.length) (same : s.take reveal = t.take reveal) :
    Alike reveal s t := by
  have left : min reveal (s.length - 1) = reveal := by omega
  have right : min reveal (t.length - 1) = reveal := by omega
  refine .shown (List.ne_nil_of_length_pos (by omega)) (List.ne_nil_of_length_pos (by omega)) ?_
  rw [left, right, same]

/-! ### Addresses -/

/-- The segments of the part before the at sign; without a separator, or with an empty one, it is a single segment. -/
inductive Segments (policy : RedactionPolicy) (user : List Char) : List (List Char) → Prop
  | whole (undivided : policy.separator = none ∨ policy.separator = some "") : Segments policy user [user]
  | divided {separator : String} {segments : List (List Char)} (given : policy.separator = some separator)
    (some_separator : separator ≠ "") (divides : Divides separator.toList user segments) : Segments policy user segments

/-- An address divided at its last at sign: the segments before it, and the domain. -/
def Divided (policy : RedactionPolicy) (address : String) (segments : List (List Char)) (domain : List Char) : Prop :=
  ∃ user, address.toList = user ++ '@' :: domain ∧ '@' ∉ domain ∧ Segments policy user segments

theorem exists_segments (policy : RedactionPolicy) (user : List Char) : ∃ segments, Segments policy user segments := by
  cases given : policy.separator with
  | none => exact ⟨_, .whole (.inl given)⟩
  | some separator =>
    by_cases empty : separator = ""
    · exact ⟨_, .whole (.inr (empty ▸ given))⟩
    · exact ⟨_, .divided given empty (divides_splitOn (by simpa using empty) user)⟩

theorem exists_divided {address : String} (h : '@' ∈ address.toList) (policy : RedactionPolicy) :
    ∃ segments domain, Divided policy address segments domain := by
  obtain ⟨behind, before, hreverse, last⟩ := List.eq_append_cons_of_mem (List.mem_reverse.mpr h)
  obtain ⟨segments, hsegments⟩ := exists_segments policy before.reverse
  refine ⟨segments, behind.reverse, before.reverse, ?_, fun mem => last (List.mem_reverse.mp mem), hsegments⟩
  rw [← List.reverse_reverse address.toList, hreverse]
  simp

/-- What stands between the redacted segments. -/
def between (policy : RedactionPolicy) : List Char :=
  (policy.separator.getD "").toList

theorem Segments.username_eq (h : Segments policy user segments) :
    policy.username user = join policy.between (segments.map (segment policy.usernameReveal)) := by
  unfold username between
  cases h with
  | whole undivided =>
    rcases undivided with none_given | empty_given
    · rw [none_given]
      rfl
    · rw [empty_given]
      rfl
  | divided given some_separator divides =>
    rw [given]
    dsimp only
    rw [if_neg (by simpa using some_separator), divides.splitOn_eq (by simpa using some_separator)]
    rfl

theorem Divided.redactEmail_eq {address : String} (h : Divided policy address segments domain) :
    policy.redactEmail address = String.ofList (join policy.between (segments.map (segment policy.usernameReveal)) ++
      '@' :: segment policy.domainReveal domain) := by
  obtain ⟨user, whole, last, hsegments⟩ := h
  rw [redactEmail, whole, cutLast_append last]
  dsimp only
  rw [hsegments.username_eq]

/-- Whatever the policy is: two addresses with an at sign, with equally many segments that cannot be told apart one by one
    and with domains that cannot, look the same. A segment that is longer than what is shown gives away neither its length
    nor anything behind that, and of no segment all is written. -/
theorem redaction_noninterference (policy : RedactionPolicy) :
    (∀ (a b : String) segments segments' domain domain', Divided policy a segments domain → Divided policy b segments' domain' →
      List.Forall₂ (Alike policy.usernameReveal) segments segments' → Alike policy.domainReveal domain domain' →
      policy.redactEmail a = policy.redactEmail b) ∧
    (∀ reveal (s t : List Char), reveal < s.length → reveal < t.length → s.take reveal = t.take reveal → Alike reveal s t) ∧
    (∀ address : String, '@' ∈ address.toList → ∃ segments domain shown shownDomain, Divided policy address segments domain ∧
      List.Forall₂ (Shows policy.usernameReveal) segments shown ∧ Shows policy.domainReveal domain shownDomain ∧
      (policy.redactEmail address).toList = join policy.between shown ++ '@' :: shownDomain) := by
  refine ⟨?_, fun _ _ _ => alike_of_take_eq, fun address mem => ?_⟩
  · intro a b segments segments' domain domain' ha hb users domains
    have same : segments.map (segment policy.usernameReveal) = segments'.map (segment policy.usernameReveal) := by
      rw [← List.forall₂_eq_eq_eq, List.forall₂_map_left_iff, List.forall₂_map_right_iff]
      exact users.imp fun _ _ => Alike.segment_eq
    rw [ha.redactEmail_eq, hb.redactEmail_eq, same, domains.segment_eq]
  · obtain ⟨segments, domain, divided⟩ := exists_divided mem policy
    refine ⟨segments, domain, segments.map (segment policy.usernameReveal), segment policy.domainReveal domain, divided, ?_,
      shows_segment _ _, ?_⟩
    · rw [List.forall₂_map_right_iff, List.forall₂_same]
      exact fun s _ => shows_segment _ s
    · rw [divided.redactEmail_eq, String.toList_ofList]

/-- A separator with an at sign in it, an empty segment, and segments of a single character. -/
theorem redaction_noninterference_separated :
    let policy : RedactionPolicy := ⟨3, 4, some "-@"⟩
    policy.redactEmail "johnny-@-@j-@smith@example.org" = policy.redactEmail "johanna-@-@k-@smiley@examine.com" ∧
      policy.redactEmail "johnny-@-@j-@smith@example.org" = "joh...-@-@...-@smi...@exam..." := by
  intro policy
  have divided (address : String) (user domain : List Char) {segments : List (List Char)}
      (whole : address.toList = user ++ '@' :: domain) (last : '@' ∉ domain) (split : splitOn "-@".toList user = segments) :
      Divided policy address segments domain :=
    ⟨user, whole, last, .divided rfl (by decide) ((splitOn_eq_iff (by decide)).mp split)⟩
  obtain ⟨same, -, -⟩ := redaction_noninterference policy
  refine ⟨?_, by decide +kernel⟩
  refine same _ _ ["johnny".toList, [], ['j'], "smith".toList] ["johanna".toList, [], ['k'], "smiley".toList] _ _
    (divided _ "johnny-@-@j-@smith".toList "example.org".toList ?_ ?_ ?_)
    (divided _ "johanna-@-@k-@smiley".toList "examine.com".toList ?_ ?_ ?_)
    (.cons (.shown ?_ ?_ ?_) (.cons .empty (.cons (.shown ?_ ?_ ?_) (.cons (.shown ?_ ?_ ?_) .nil)))) (.shown ?_ ?_ ?_)
  all_goals decide

end IdentityServer.RedactionPolicy
