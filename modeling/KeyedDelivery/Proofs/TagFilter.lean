import KeyedDelivery.Message
import KeyedDelivery.Proofs.Text.Trim
import KeyedDelivery.TagFilter
import Mathlib.Data.List.Basic

/-!
# Subscriptions to listed tags

A subscription is cut at double bars, and a tag holds none. A tag may still begin or end with a single
bar, so where the cut falls is decided by what stands before the separator: no tag there ends with a
bar of its own. Then every cut is at a separator, and what lies between two cuts is a tag with blanks
around it, or nothing but blanks.

* **`Listed`** — a text with the tags it lists.
* **`segments_append`** — the first segment is what stands before the first separator.
* **`segments_trim`** — trimming the whole text first changes none of its trimmed segments.
* **`Listed.tags_eq`** — the segments of a list are its tags; induction on the list.
* **`accepts_listed`** — the subscription takes exactly these tags.
-/

namespace KeyedDelivery

open Text (Blanks Unpadded isBlank trim)

/-! ## Double bars -/

/-- A pair of bars begins at the first character. -/
def startsWithBars (c : Char) (r : List Char) : Prop := c = '|' ∧ r.head? = some '|'

/-- A double bar is at the front of a text, or further on. -/
theorem hasBars_cons {c : Char} {r : List Char} :
    hasBars (c :: r) = true ↔ startsWithBars c r ∨ hasBars r = true := by
  unfold startsWithBars
  cases r with
  | nil => simp [hasBars]
  | cons d r =>
    by_cases h : c = '|' ∧ d = '|'
    · obtain ⟨rfl, rfl⟩ := h
      simp [hasBars]
    · -- the scan goes on past a character that begins no double bar
      have hnot : hasBars (c :: d :: r) = hasBars (d :: r) := by
        rw [hasBars]
        rintro r' rfl heq
        exact h ⟨rfl, (List.cons.inj heq).1⟩
      rw [hnot]
      simp only [List.head?_cons, Option.some.injEq, h, false_or]

theorem not_hasBars_cons {c : Char} {r : List Char} (h : hasBars (c :: r) = false) :
    ¬startsWithBars c r ∧ hasBars r = false := by
  rw [← Bool.not_eq_true, hasBars_cons, not_or] at h
  exact ⟨h.1, by simpa using h.2⟩

/-- A bar is no blank. -/
theorem ne_bar_of_isBlank {c : Char} (h : isBlank c = true) : c ≠ '|' := by
  rintro rfl
  exact absurd h (by decide)

/-- Blanks before a text bring no bars. -/
theorem hasBars_append_left {b : List Char} (hb : Blanks b) (s : List Char) :
    hasBars (b ++ s) = hasBars s := by
  induction b with
  | nil => rfl
  | cons c b ih =>
    obtain ⟨hc, hb⟩ := Text.blanks_cons.mp hb
    rw [List.cons_append, Bool.eq_iff_iff, hasBars_cons, ih hb]
    exact or_iff_right fun h => ne_bar_of_isBlank hc h.1

theorem startsWithBars_append {c : Char} (r : List Char) {b : List Char} (hb : Blanks b) :
    startsWithBars c (r ++ b) ↔ startsWithBars c r := by
  unfold startsWithBars
  cases r with
  | nil =>
    refine and_congr_right fun _ => ⟨fun hhead => ?_, nofun⟩
    obtain ⟨b', rfl⟩ := List.head?_eq_some_iff.mp hhead
    exact absurd rfl (ne_bar_of_isBlank (hb '|' List.mem_cons_self))
  | cons d r => rfl

/-- Nor do blanks after it. -/
theorem hasBars_append_right (s : List Char) {b : List Char} (hb : Blanks b) :
    hasBars (s ++ b) = hasBars s := by
  induction s with
  | nil =>
    have hnone := hasBars_append_left hb []
    rwa [List.append_nil] at hnone
  | cons c s ih =>
    rw [List.cons_append, Bool.eq_iff_iff, hasBars_cons, hasBars_cons, ih,
      startsWithBars_append s hb]

namespace TagFilter

/-! ## Segments -/

theorem segments_ne_nil (s : List Char) : segments s ≠ [] := by
  fun_induction segments s with
  | case1 => exact List.cons_ne_nil _ _
  | case2 => exact List.cons_ne_nil _ _
  | case3 => exact List.cons_ne_nil _ _
  | case4 => exact List.cons_ne_nil _ _

/-- A character that begins no separator belongs to the first segment. -/
theorem segments_cons {c : Char} {r : List Char} (h : ¬startsWithBars c r) :
    ∃ s ss, segments r = s :: ss ∧ segments (c :: r) = (c :: s) :: ss := by
  obtain ⟨s, ss, hr⟩ := List.exists_cons_of_ne_nil (segments_ne_nil r)
  refine ⟨s, ss, hr, ?_⟩
  rw [segments, hr]
  rintro r' rfl rfl
  exact h ⟨rfl, rfl⟩

/-- **The first segment** is what stands before the first separator, if it does not end with a bar. -/
theorem segments_append {s : List Char} (hs : hasBars s = false) (hend : s.getLast? ≠ some '|')
    (r : List Char) : segments (s ++ '|' :: '|' :: r) = s :: segments r := by
  induction s with
  | nil => rw [List.nil_append, segments]
  | cons c s ih =>
    obtain ⟨hstart, hs⟩ := not_hasBars_cons hs
    -- where the text ends, its last character is no bar, so the cut is at the separator
    have hnext : ¬startsWithBars c (s ++ '|' :: '|' :: r) := by
      rintro ⟨rfl, hhead⟩
      cases s with
      | nil => exact hend rfl
      | cons d s => exact hstart ⟨rfl, hhead⟩
    have hend' : s.getLast? ≠ some '|' := by
      intro hlast
      rw [List.getLast?_cons, hlast] at hend
      exact hend rfl
    obtain ⟨t, ts, hrest, hsegments⟩ := segments_cons hnext
    obtain ⟨rfl, rfl⟩ := List.cons.inj (hrest.symm.trans (ih hs hend'))
    exact hsegments

/-- A text without double bars is one segment. -/
theorem segments_of_not_hasBars {s : List Char} (hs : hasBars s = false) : segments s = [s] := by
  induction s with
  | nil => rfl
  | cons c s ih =>
    obtain ⟨hstart, hs⟩ := not_hasBars_cons hs
    obtain ⟨t, ts, hrest, hsegments⟩ := segments_cons hstart
    obtain ⟨rfl, rfl⟩ := List.cons.inj (hrest.symm.trans (ih hs))
    exact hsegments

/-! ## Blanks around the whole text -/

/-- Blanks in front go into the first segment, from which they are trimmed. -/
theorem segments_blanks_append {b : List Char} (hb : Blanks b) (s : List Char) :
    (segments (b ++ s)).map trim = (segments s).map trim := by
  induction b with
  | nil => rfl
  | cons c b ih =>
    obtain ⟨hc, hb⟩ := Text.blanks_cons.mp hb
    obtain ⟨t, ts, hrest, hsegments⟩ := segments_cons (r := b ++ s) fun h => ne_bar_of_isBlank hc h.1
    have hleft : Text.trimLeft (c :: t) = Text.trimLeft t := List.dropWhile_cons_of_pos hc
    have htrim : trim (c :: t) = trim t := congrArg Text.trimRight hleft
    rw [List.cons_append, hsegments, ← ih hb, hrest, List.map_cons, List.map_cons, htrim]

/-- Blanks after a text belong to its last segment. -/
theorem segments_append_blanks (s : List Char) {b : List Char} (hb : Blanks b) :
    ∃ ss last, segments s = ss ++ [last] ∧ segments (s ++ b) = ss ++ [last ++ b] := by
  fun_induction segments s with
  | case1 =>
    have hnone : hasBars b = false := hasBars_append_right [] hb
    exact ⟨[], [], rfl, segments_of_not_hasBars hnone⟩
  | case2 r ih =>
    obtain ⟨ss, last, hr, hrb⟩ := ih
    refine ⟨[] :: ss, last, by rw [hr]; rfl, ?_⟩
    rw [List.cons_append, List.cons_append, segments, hrb]
    rfl
  | case3 c r _ hnil => exact absurd hnil (segments_ne_nil r)
  | case4 c r hnot t ts hrest ih =>
    have hstart : ¬startsWithBars c r := by
      rintro ⟨rfl, hhead⟩
      obtain ⟨r', rfl⟩ := List.head?_eq_some_iff.mp hhead
      exact hnot r' rfl rfl
    obtain ⟨u, us, hrb, hsegments⟩ := segments_cons (mt (startsWithBars_append r hb).mp hstart)
    obtain ⟨ss, last, hr, hlast⟩ := ih
    rw [List.cons_append, hsegments]
    rw [hr] at hrest
    rw [hrb] at hlast
    -- the first segment is the last one, or it is left as it is
    cases ss with
    | nil =>
      obtain ⟨rfl, rfl⟩ := List.cons.inj hrest
      obtain ⟨rfl, rfl⟩ := List.cons.inj hlast
      exact ⟨[], _, rfl, rfl⟩
    | cons v ss =>
      obtain ⟨rfl, rfl⟩ := List.cons.inj hrest
      obtain ⟨rfl, rfl⟩ := List.cons.inj hlast
      exact ⟨(c :: u) :: ss, last, rfl, rfl⟩

/-- **Trimming the whole text first** changes none of its trimmed segments. -/
theorem segments_trim (s : List Char) : (segments (trim s)).map trim = (segments s).map trim := by
  obtain ⟨b, b', hb, hb', hs⟩ := Text.exists_trim s
  obtain ⟨ss, last, hall, hlast⟩ := segments_append_blanks (trim s) hb'
  calc (segments (trim s)).map trim
      = (segments (trim s ++ b')).map trim := by
        rw [hall, hlast, List.map_append, List.map_append, List.map_singleton, List.map_singleton,
          Text.trim_append _ hb']
    _ = (segments (b ++ (trim s ++ b'))).map trim := (segments_blanks_append hb _).symm
    _ = (segments s).map trim := by rw [← List.append_assoc, ← hs]

/-! ## Lists of tags -/

/-- A tag that can be listed: without a separator, not empty, and without blanks at its ends. -/
structure IsTag (t : String) : Prop where
  valid : validateTag t = .ok ()
  nonempty : t ≠ ""
  unpadded : Unpadded t.toList

/-- A text with the tags that it lists, in order. Between two separators stands a tag, with blanks around
it or without, or nothing but blanks. A tag that ends with a bar has blanks before the separator. -/
inductive Listed : List String → List Char → Prop where
  | blank {b : List Char} (blank : Blanks b) : Listed [] b
  | last {t : String} {b b' : List Char} (blank : Blanks b) (blank' : Blanks b') :
      Listed [t] (b ++ t.toList ++ b')
  | skip {ts : List String} {b r : List Char} (blank : Blanks b) (rest : Listed ts r) :
      Listed ts (b ++ '|' :: '|' :: r)
  | more {t : String} {ts : List String} {b b' r : List Char} (blank : Blanks b)
      (blank' : Blanks b') (apart : b' = [] → t.toList.getLast? ≠ some '|') (rest : Listed ts r) :
      Listed (t :: ts) (b ++ t.toList ++ b' ++ '|' :: '|' :: r)

/-- A list stays one with a blank more in front. -/
theorem Listed.cons_of_isBlank {ts : List String} {c : Char} {cs : List Char} (h : Listed ts cs)
    (hc : isBlank c = true) : Listed ts (c :: cs) := by
  have hcons {b : List Char} (hb : Blanks b) : Blanks (c :: b) := Text.blanks_cons.mpr ⟨hc, hb⟩
  cases h with
  | blank blank => exact .blank (hcons blank)
  | last blank blank' => exact .last (hcons blank) blank'
  | skip blank rest => exact .skip (hcons blank) rest
  | more blank blank' apart rest => exact .more (hcons blank) blank' apart rest

/-- The plain list, with one blank on either side of each separator. -/
theorem listed_intercalate (t : String) (ts : List String) :
    Listed (t :: ts) (" || ".intercalate (t :: ts)).toList := by
  have hblank : Blanks [' '] := by simp [Blanks, isBlank]
  have hnone : Blanks [] := by nofun
  rw [String.toList_intercalate]
  induction ts generalizing t with
  | nil =>
    have hlast := Listed.last (t := t) hnone hnone
    simpa using hlast
  | cons u ts ih =>
    -- each separator has one blank on either side
    have hmore := Listed.more (t := t) hnone hblank nofun ((ih u).cons_of_isBlank (c := ' ') (by decide))
    rw [List.map_cons, List.map_cons, List.intercalate_cons_cons]
    simpa using hmore

variable {t : String} {ts : List String} {b b' cs : List Char}

theorem IsTag.not_hasBars (h : IsTag t) : hasBars t.toList = false := by
  have hvalid := h.valid
  unfold validateTag at hvalid
  split at hvalid
  · cases hvalid
  · next hbars => simpa using hbars

/-- A segment with a tag holds no separator, and is trimmed to the tag. -/
theorem IsTag.segment (h : IsTag t) (hb : Blanks b) (hb' : Blanks b') :
    hasBars (b ++ t.toList ++ b') = false ∧ trim (b ++ t.toList ++ b') = t.toList := by
  refine ⟨?_, ?_⟩
  · rw [hasBars_append_right _ hb', hasBars_append_left hb, h.not_hasBars]
  · rw [Text.trim_around hb _ hb', Text.trim_of_unpadded h.unpadded]

theorem not_hasBars_of_blanks (hb : Blanks b) : hasBars b = false := hasBars_append_right [] hb

theorem getLast?_ne_bar (hb : Blanks b) : b.getLast? ≠ some '|' := fun h =>
  ne_bar_of_isBlank (hb '|' (List.mem_of_getLast? h)) rfl

/-- **The segments of a list are its tags**, when they are trimmed and the empty ones are left out. -/
theorem Listed.tags_eq (h : Listed ts cs) (hts : ∀ t ∈ ts, IsTag t) :
    ((segments cs).map trim).filter (! ·.isEmpty) = ts.map String.toList := by
  have hnonempty {t : String} (ht : IsTag t) : (! t.toList.isEmpty) = true := by
    have hne := ht.nonempty
    simpa using hne
  induction h with
  | blank blank =>
    rw [segments_of_not_hasBars (not_hasBars_of_blanks blank), List.map_singleton,
      Text.trim_blanks blank]
    rfl
  | @last t b b' blank blank' =>
    have ht := hts t List.mem_cons_self
    obtain ⟨hbars, htrim⟩ := ht.segment blank blank'
    rw [segments_of_not_hasBars hbars, List.map_singleton, htrim, List.filter_cons,
      if_pos (hnonempty ht)]
    rfl
  | skip blank _ ih =>
    rw [segments_append (not_hasBars_of_blanks blank) (getLast?_ne_bar blank), List.map_cons,
      Text.trim_blanks blank, List.filter_cons_of_neg (by simp), ih hts]
  | @more t ts b b' r blank blank' apart _ ih =>
    obtain ⟨ht, hts⟩ := List.forall_mem_cons.mp hts
    obtain ⟨hbars, htrim⟩ := ht.segment blank blank'
    -- what stands before the separator ends with a blank, or with the tag itself
    have hend : (b ++ t.toList ++ b').getLast? ≠ some '|' := by
      by_cases hb' : b' = []
      · have htag : t.toList ≠ [] := by simpa using ht.nonempty
        rw [hb', List.append_nil, List.getLast?_append_of_ne_nil _ htag]
        exact apart hb'
      · rw [List.getLast?_append_of_ne_nil _ hb']
        exact getLast?_ne_bar blank'
    rw [segments_append hbars hend, List.map_cons, htrim, List.filter_cons,
      if_pos (hnonempty ht), ih hts, List.map_cons]

/-- A list of tags is read as these tags. -/
theorem parse_listed {text : String} (hne : ts ≠ []) (hstar : ts ≠ ["*"]) (hts : ∀ t ∈ ts, IsTag t)
    (h : Listed ts text.toList) : parse text = .tags ts := by
  have htags := h.tags_eq hts
  rw [← segments_trim] at htags
  unfold parse
  dsimp only
  generalize trim text.toList = cs at htags
  -- a list of tags is neither blank nor the star that takes everything
  have hall : ¬(cs.isEmpty || cs == ['*']) = true := by
    rw [Bool.or_eq_true, List.isEmpty_iff, beq_iff_eq]
    rintro (rfl | rfl)
    · exact hne (List.map_eq_nil_iff.mp htags.symm)
    · have hsingle : ["*"].map String.toList = ts.map String.toList := htags
      exact hstar (List.map_injective_iff.mpr (fun _ _ => String.toList_injective) hsingle).symm
  rw [if_neg hall, htags]
  cases ts with
  | nil => exact absurd rfl hne
  | cons t ts =>
    have hread : ((t :: ts).map String.toList).map String.ofList = t :: ts := by simp
    exact congrArg tags hread

/-- **A subscription to listed tags takes these tags and no others**, whatever blanks and empty segments
the list has; a single `*` alone means every tag. -/
theorem accepts_listed {tags : List String} (hne : tags ≠ []) (hstar : tags ≠ ["*"])
    (htags : ∀ t ∈ tags, IsTag t) :
    (∀ x, (parse (" || ".intercalate tags)).accepts x = true ↔ x ∈ tags) ∧
      ∀ text : String, Listed tags text.toList →
        ∀ x, (parse text).accepts x = true ↔ x ∈ tags := by
  have hlisted (text : String) (h : Listed tags text.toList) (x : String) :
      (parse text).accepts x = true ↔ x ∈ tags := by
    rw [parse_listed hne hstar htags h]
    exact List.contains_iff_mem
  refine ⟨hlisted _ ?_, hlisted⟩
  obtain ⟨t, ts, rfl⟩ := List.exists_cons_of_ne_nil hne
  exact listed_intercalate t ts

/-- Tags that begin or end with a bar, blanks of several kinds, and empty segments. -/
theorem accepts_listed_bars :
    Listed ["a|", "|b", "*"] "\t|| a| || |||b ||\u3000|||| *".toList ∧
      (∀ t ∈ ["a|", "|b", "*"], IsTag t) ∧
      ∀ x, (parse "\t|| a| || |||b ||\u3000|||| *").accepts x = true ↔ x ∈ ["a|", "|b", "*"] := by
  have hnone : Blanks [] := by nofun
  have htab : Blanks ['\t'] := by simp [Blanks, isBlank]
  have hspace : Blanks [' '] := by simp [Blanks, isBlank]
  have hwide : Blanks ['\u3000'] := by simp [Blanks, isBlank]
  have hlisted : Listed ["a|", "|b", "*"] "\t|| a| || |||b ||\u3000|||| *".toList :=
    .skip htab <| .more hspace hspace nofun <| .skip hspace <| .more hnone hspace nofun <|
      .skip hwide <| .skip hnone <| .last hspace hnone
  have htags : ∀ t ∈ ["a|", "|b", "*"], IsTag t := by
    simp only [List.forall_mem_cons]
    exact ⟨⟨rfl, by decide, by simp [Unpadded, isBlank]⟩, ⟨rfl, by decide, by simp [Unpadded, isBlank]⟩,
      ⟨rfl, by decide, by simp [Unpadded, isBlank]⟩, nofun⟩
  exact ⟨hlisted, htags, (accepts_listed (by decide) (by decide) htags).2 _ hlisted⟩

end TagFilter

end KeyedDelivery
