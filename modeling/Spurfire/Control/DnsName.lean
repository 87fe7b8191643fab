import Spurfire.Protocol.Lobby

/-!
# Tailnet DNS names

A created network is named by a DNS name that crosses the crates as text: `spurfire-control` parses
what the provider answers, and `spurfire-protocol` parses the result again.

* `controlParse`, `protocolParse`: the two parsers, each with its own order of checks and errors;
* `IsDnsName`: what a name is, by its labels;
* **`dns_parsers_agree`**: both accept exactly those names, with one canonical text, which they
  parse back unchanged.
-/

namespace Spurfire

namespace TailnetDnsName

/-! ## The parsers -/

def MAX_TAILNET_DNS_NAME_LEN : ℕ := 253

def isAscii (value : List Char) : Bool := value.all (·.toNat < 128)

/-- `strip_suffix('.').unwrap_or`. -/
def stripRootDot (value : List Char) : List Char :=
  if value.getLast? = some '.' then value.dropLast else value

/-- `to_ascii_lowercase`. -/
def lowercase (name : List Char) : TailnetDnsName := ⟨String.ofList (name.map Char.toLower)⟩

def isLabelChar (c : Char) : Bool := c.isAlphanum || c == '-'

/-- The label loop of `spurfire-control`, which counts as it checks. -/
def countLabels : List (List Char) → ℕ → Except String ℕ
  | [], labelCount => .ok labelCount
  | label :: labels, labelCount =>
    if label.isEmpty || 63 < label.length then .error "tailnet DNS label length is invalid"
    else if label.head? == some '-' || label.getLast? == some '-' || !label.all isLabelChar then
      .error "tailnet DNS label characters are invalid"
    else countLabels labels (labelCount + 1)

def controlParse (value : String) : Except String TailnetDnsName :=
  if value.toList.isEmpty || !isAscii value.toList then
    .error "tailnet DNS name must be non-empty ASCII"
  else
    let name := stripRootDot value.toList
    if name.isEmpty || MAX_TAILNET_DNS_NAME_LEN < name.length then
      .error "tailnet DNS name length is invalid"
    else
      match countLabels (name.splitOn '.') 0 with
      | .error error => .error error
      | .ok labelCount =>
        if labelCount < 2 then .error "tailnet DNS name must be fully qualified"
        else .ok (lowercase name)

inductive ValidationError
  | empty
  | nonAscii
  | nameTooLong
  | notFullyQualified
  | emptyLabel
  | labelTooLong
  | labelBoundaryHyphen
  | invalidCharacter
deriving DecidableEq

/-- The label loop of `spurfire-protocol`. -/
def checkLabels : List (List Char) → Except ValidationError Unit
  | [] => .ok ()
  | label :: labels =>
    if label.isEmpty then .error .emptyLabel
    else if 63 < label.length then .error .labelTooLong
    else if label.head? == some '-' || label.getLast? == some '-' then .error .labelBoundaryHyphen
    else if !label.all isLabelChar then .error .invalidCharacter
    else checkLabels labels

def protocolParse (value : String) : Except ValidationError TailnetDnsName :=
  if value.toList.isEmpty then .error .empty
  else if !isAscii value.toList then .error .nonAscii
  else
    let withoutRootDot := stripRootDot value.toList
    if withoutRootDot.isEmpty then .error .empty
    else if MAX_TAILNET_DNS_NAME_LEN < withoutRootDot.length then .error .nameTooLong
    else
      let labels := withoutRootDot.splitOn '.'
      if labels.length < 2 then .error .notFullyQualified
      else (checkLabels labels).map fun () => lowercase withoutRootDot

/-! ## Names -/

/-- One to 63 letters, digits and hyphens, with no hyphen at either end. -/
structure IsDnsLabel (label : List Char) : Prop where
  nonempty : label ≠ []
  short : label.length ≤ 63
  first : label.head? ≠ some '-'
  last : label.getLast? ≠ some '-'
  chars : ∀ c ∈ label, isLabelChar c = true

/-- The labels of a name, dot by dot. -/
def join (labels : List (List Char)) : List Char := ['.'].intercalate labels

/-- A name of at least two labels and at most 253 characters, without its root dot. -/
structure IsDnsName (labels : List (List Char)) : Prop where
  qualified : 2 ≤ labels.length
  short : (join labels).length ≤ MAX_TAILNET_DNS_NAME_LEN
  labels : ∀ label ∈ labels, IsDnsLabel label

/-- A text that spells the name of the labels, with or without the root dot. -/
def Spells (value : String) (labels : List (List Char)) : Prop :=
  value.toList = join labels ∨ value.toList = join labels ++ ['.']

/-- One label, as both loops check it. -/
theorem isDnsLabel_iff {label : List Char} : IsDnsLabel label ↔ label.isEmpty = false
    ∧ label.length ≤ 63 ∧ label.head? ≠ some '-' ∧ label.getLast? ≠ some '-'
    ∧ label.all isLabelChar = true := by
  rw [List.isEmpty_eq_false_iff, List.all_eq_true]
  constructor
  · rintro ⟨hne, hshort, hfirst, hlast, hchars⟩
    exact ⟨hne, hshort, hfirst, hlast, hchars⟩
  · rintro ⟨hne, hshort, hfirst, hlast, hchars⟩
    exact ⟨hne, hshort, hfirst, hlast, hchars⟩

theorem countLabels_eq_ok_iff {labels : List (List Char)} {labelCount count : ℕ} :
    countLabels labels labelCount = .ok count
      ↔ (∀ label ∈ labels, IsDnsLabel label) ∧ count = labelCount + labels.length := by
  induction labels generalizing labelCount with
  | nil =>
    rw [countLabels, Except.ok.injEq, List.length_nil, eq_comm]
    exact (and_iff_right nofun).symm
  | cons label labels ih =>
    rw [countLabels, List.forall_mem_cons, isDnsLabel_iff, List.length_cons]
    by_cases hlength : (label.isEmpty || decide (63 < label.length)) = true
    · rw [if_pos hlength]
      simp only [Bool.or_eq_true, decide_eq_true_eq] at hlength
      refine iff_of_false nofun fun h => ?_
      rcases hlength with hempty | hlong
      · exact absurd (hempty.symm.trans h.1.1.1) (by decide)
      · exact absurd h.1.1.2.1 (not_le.mpr hlong)
    · rw [if_neg hlength]
      simp only [Bool.or_eq_true, decide_eq_true_eq, not_or, Bool.not_eq_true, not_lt] at hlength
      by_cases hchars : (label.head? == some '-' || label.getLast? == some '-'
          || !label.all isLabelChar) = true
      · rw [if_pos hchars]
        simp only [Bool.or_eq_true, beq_iff_eq, Bool.not_eq_true'] at hchars
        refine iff_of_false nofun fun h => ?_
        rcases hchars with (hfirst | hlast) | hchar
        · exact h.1.1.2.2.1 hfirst
        · exact h.1.1.2.2.2.1 hlast
        · exact absurd (hchar.symm.trans h.1.1.2.2.2.2) (by decide)
      · rw [if_neg hchars, ih]
        simp only [Bool.or_eq_true, beq_iff_eq, Bool.not_eq_true', not_or, Bool.not_eq_false]
          at hchars
        have hcount : labelCount + 1 + labels.length = labelCount + (labels.length + 1) := by omega
        rw [hcount]
        refine and_congr_left fun _ => (and_iff_right ?_).symm
        exact ⟨hlength.1, hlength.2, hchars.1.1, hchars.1.2, hchars.2⟩

theorem checkLabels_eq_ok_iff {labels : List (List Char)} :
    checkLabels labels = .ok () ↔ ∀ label ∈ labels, IsDnsLabel label := by
  induction labels with
  | nil => exact iff_of_true rfl nofun
  | cons label labels ih =>
    rw [checkLabels, List.forall_mem_cons, isDnsLabel_iff, ← ih]
    by_cases hempty : label.isEmpty = true
    · rw [if_pos hempty]
      exact iff_of_false nofun fun h => absurd (hempty.symm.trans h.1.1) (by decide)
    · rw [if_neg hempty]
      by_cases hlong : 63 < label.length
      · rw [if_pos hlong]
        exact iff_of_false nofun fun h => absurd h.1.2.1 (not_le.mpr hlong)
      · rw [if_neg hlong]
        by_cases hhyphen : (label.head? == some '-' || label.getLast? == some '-') = true
        · rw [if_pos hhyphen]
          simp only [Bool.or_eq_true, beq_iff_eq] at hhyphen
          exact iff_of_false nofun fun h => hhyphen.elim h.1.2.2.1 h.1.2.2.2.1
        · rw [if_neg hhyphen]
          simp only [Bool.or_eq_true, beq_iff_eq, not_or] at hhyphen
          by_cases hchars : (!label.all isLabelChar) = true
          · rw [if_pos hchars]
            rw [Bool.not_eq_true'] at hchars
            exact iff_of_false nofun fun h =>
              absurd (hchars.symm.trans h.1.2.2.2.2) (by decide)
          · rw [if_neg hchars]
            rw [Bool.not_eq_true', Bool.not_eq_false] at hchars
            refine (and_iff_right ?_).symm
            exact ⟨Bool.eq_false_iff.mpr hempty, not_lt.mp hlong, hhyphen.1, hhyphen.2, hchars⟩

/-! ## Characters -/

theorem toNat_lt_of_isLabelChar {c : Char} (h : isLabelChar c = true) : c.toNat < 128 := by
  unfold isLabelChar Char.isAlphanum Char.isAlpha Char.isUpper Char.isLower Char.isDigit at h
  simp only [Bool.or_eq_true, Bool.and_eq_true, decide_eq_true_eq, beq_iff_eq, ge_iff_le,
    UInt32.le_iff_toNat_le] at h
  change c.val.toNat < 128
  rcases h with ((⟨-, h⟩ | ⟨-, h⟩) | ⟨-, h⟩) | rfl
  · exact lt_of_le_of_lt h (by decide)
  · exact lt_of_le_of_lt h (by decide)
  · exact lt_of_le_of_lt h (by decide)
  · decide

theorem of_isLabelChar {P : Char → Prop}
    (hascii : ∀ n < 128, isLabelChar (Char.ofNat n) = true → P (Char.ofNat n)) {c : Char}
    (h : isLabelChar c = true) : P c := by
  have hc : Char.ofNat c.toNat = c := Char.ofNat_toNat c
  have hp := hascii c.toNat (toNat_lt_of_isLabelChar h)
  rw [hc] at hp
  exact hp h

theorem ne_dot_of_isLabelChar {c : Char} (h : isLabelChar c = true) : c ≠ '.' :=
  of_isLabelChar (P := fun c => c ≠ '.') (by decide +kernel) h

theorem isLabelChar_toLower {c : Char} (h : isLabelChar c = true) : isLabelChar c.toLower = true :=
  of_isLabelChar (P := fun c => isLabelChar c.toLower = true) (by decide +kernel) h

theorem toLower_eq_hyphen {c : Char} (h : isLabelChar c = true) (hlower : c.toLower = '-') :
    c = '-' :=
  of_isLabelChar (P := fun c => c.toLower = '-' → c = '-') (by decide +kernel) h hlower

theorem toLower_toLower {c : Char} (h : isLabelChar c = true) : c.toLower.toLower = c.toLower :=
  of_isLabelChar (P := fun c => c.toLower.toLower = c.toLower) (by decide +kernel) h

/-! ## Names and their labels -/

theorem join_singleton (label : List Char) : join [label] = label := List.intercalate_singleton

theorem join_cons_cons (label next : List Char) (labels : List (List Char)) :
    join (label :: next :: labels) = label ++ '.' :: join (next :: labels) := by
  unfold join
  rw [List.intercalate_cons_cons, List.append_assoc, List.singleton_append]

theorem mem_join {labels : List (List Char)} {c : Char} (h : c ∈ join labels) :
    c = '.' ∨ ∃ label ∈ labels, c ∈ label := by
  induction labels with
  | nil => exact absurd h List.not_mem_nil
  | cons label labels ih =>
    cases labels with
    | nil =>
      rw [join_singleton] at h
      exact Or.inr ⟨label, List.mem_cons_self, h⟩
    | cons next labels =>
      rw [join_cons_cons, List.mem_append, List.mem_cons] at h
      rcases h with hlabel | hdot | hrest
      · exact Or.inr ⟨label, List.mem_cons_self, hlabel⟩
      · exact Or.inl hdot
      · rcases ih hrest with hdot | ⟨other, hother, hmem⟩
        · exact Or.inl hdot
        · exact Or.inr ⟨other, List.mem_cons_of_mem label hother, hmem⟩

/-- A name ends in a label character, and so in no dot. -/
theorem getLast?_join {labels : List (List Char)} (hne : labels ≠ [])
    (h : ∀ label ∈ labels, IsDnsLabel label) :
    ∃ c, (join labels).getLast? = some c ∧ isLabelChar c = true := by
  induction labels with
  | nil => exact absurd rfl hne
  | cons label labels ih =>
    cases labels with
    | nil =>
      have hlabel := h label List.mem_cons_self
      rw [join_singleton, List.getLast?_eq_some_getLast hlabel.nonempty]
      exact ⟨_, rfl, hlabel.chars _ (List.getLast_mem hlabel.nonempty)⟩
    | cons next labels =>
      obtain ⟨c, hc, hchar⟩ := ih nofun fun other hother => h other (List.mem_cons_of_mem label hother)
      refine ⟨c, ?_, hchar⟩
      rw [join_cons_cons, List.getLast?_append, List.getLast?_cons, hc]
      rfl

theorem map_join (f : Char → Char) (hf : f '.' = '.') (labels : List (List Char)) :
    (join labels).map f = join (labels.map (List.map f)) := by
  induction labels with
  | nil => rfl
  | cons label labels ih =>
    cases labels with
    | nil => rw [join_singleton, List.map_singleton, join_singleton]
    | cons next labels =>
      rw [join_cons_cons, List.map_append, List.map_cons, hf, ih, List.map_cons, List.map_cons,
        List.map_cons, join_cons_cons]

theorem not_mem_of_isDnsLabel {label : List Char} (h : IsDnsLabel label) : '.' ∉ label :=
  fun hmem => ne_dot_of_isLabelChar (h.chars '.' hmem) rfl

theorem splitOn_join {labels : List (List Char)} (hne : labels ≠ [])
    (h : ∀ label ∈ labels, IsDnsLabel label) : (join labels).splitOn '.' = labels :=
  List.splitOn_intercalate '.' (fun label hlabel => not_mem_of_isDnsLabel (h label hlabel)) hne

theorem join_splitOn (name : List Char) : join (name.splitOn '.') = name :=
  List.intercalate_splitOn '.'

/-- What both parsers check of a text. -/
structure Checks (value : List Char) : Prop where
  nonempty : value ≠ []
  ascii : isAscii value = true
  name : stripRootDot value ≠ []
  short : (stripRootDot value).length ≤ MAX_TAILNET_DNS_NAME_LEN
  qualified : 2 ≤ ((stripRootDot value).splitOn '.').length
  labels : ∀ label ∈ (stripRootDot value).splitOn '.', IsDnsLabel label

theorem IsDnsName.ne_nil {labels : List (List Char)} (h : IsDnsName labels) : labels ≠ [] := by
  rintro rfl
  exact absurd h.qualified (by decide)

theorem stripRootDot_of_spells {value : String} {labels : List (List Char)} (h : IsDnsName labels)
    (hspells : Spells value labels) : stripRootDot value.toList = join labels := by
  obtain ⟨c, hlast, hchar⟩ := getLast?_join h.ne_nil h.labels
  unfold stripRootDot
  rcases hspells with hplain | hrooted
  · rw [hplain, hlast, if_neg]
    intro hdot
    exact ne_dot_of_isLabelChar hchar (Option.some.inj hdot)
  · rw [hrooted, List.getLast?_concat, if_pos rfl, List.dropLast_concat]

theorem isAscii_of_spells {value : String} {labels : List (List Char)} (h : IsDnsName labels)
    (hspells : Spells value labels) : isAscii value.toList = true := by
  have hjoin : ∀ c ∈ join labels, c.toNat < 128 := by
    intro c hc
    rcases mem_join hc with rfl | ⟨label, hlabel, hmem⟩
    · decide
    · exact toNat_lt_of_isLabelChar ((h.labels label hlabel).chars c hmem)
  unfold isAscii
  rw [List.all_eq_true]
  intro c hc
  rw [decide_eq_true_eq]
  rcases hspells with hplain | hrooted
  · rw [hplain] at hc
    exact hjoin c hc
  · rw [hrooted, List.mem_append, List.mem_singleton] at hc
    rcases hc with hc | rfl
    · exact hjoin c hc
    · decide

/-- **The checks accept the names.** -/
theorem checks_iff {value : String} {name : TailnetDnsName} :
    Checks value.toList ∧ name = lowercase (stripRootDot value.toList)
      ↔ ∃ labels, IsDnsName labels ∧ Spells value labels ∧ name = lowercase (join labels) := by
  constructor
  · rintro ⟨h, rfl⟩
    refine ⟨(stripRootDot value.toList).splitOn '.', ⟨h.qualified, ?_, h.labels⟩, ?_, ?_⟩
    · rw [join_splitOn]
      exact h.short
    · unfold Spells
      rw [join_splitOn]
      unfold stripRootDot
      split_ifs with hdot
      · exact Or.inr (List.dropLast_append_getLast? '.' hdot).symm
      · exact Or.inl rfl
    · rw [join_splitOn]
  · rintro ⟨labels, h, hspells, rfl⟩
    have hstrip := stripRootDot_of_spells h hspells
    obtain ⟨c, hlast, -⟩ := getLast?_join h.ne_nil h.labels
    have hjoin : join labels ≠ [] := by
      intro hnil
      rw [hnil] at hlast
      exact nomatch hlast
    have hsplit := splitOn_join h.ne_nil h.labels
    refine ⟨⟨?_, isAscii_of_spells h hspells, ?_, ?_, ?_, ?_⟩, by rw [hstrip]⟩
    · rcases hspells with hplain | hrooted
      · rw [hplain]
        exact hjoin
      · rw [hrooted]
        exact List.append_ne_nil_of_right_ne_nil _ nofun
    · rw [hstrip]
      exact hjoin
    · rw [hstrip]
      exact h.short
    · rw [hstrip, hsplit]
      exact h.qualified
    · rw [hstrip, hsplit]
      exact h.labels

/-! ## Agreement -/

variable {value : String} {name : TailnetDnsName}

theorem controlParse_eq_ok_iff : controlParse value = .ok name
    ↔ Checks value.toList ∧ name = lowercase (stripRootDot value.toList) := by
  unfold controlParse
  by_cases hascii : (value.toList.isEmpty || !isAscii value.toList) = true
  · rw [if_pos hascii]
    simp only [Bool.or_eq_true, List.isEmpty_iff, Bool.not_eq_true'] at hascii
    refine iff_of_false nofun fun h => ?_
    rcases hascii with hempty | hnon
    · exact h.1.nonempty hempty
    · exact absurd (hnon.symm.trans h.1.ascii) (by decide)
  · rw [if_neg hascii]
    simp only [Bool.or_eq_true, List.isEmpty_iff, Bool.not_eq_true', not_or,
      Bool.not_eq_false] at hascii
    dsimp only
    by_cases hlength : ((stripRootDot value.toList).isEmpty
        || decide (MAX_TAILNET_DNS_NAME_LEN < (stripRootDot value.toList).length)) = true
    · rw [if_pos hlength]
      simp only [Bool.or_eq_true, List.isEmpty_iff, decide_eq_true_eq] at hlength
      refine iff_of_false nofun fun h => ?_
      rcases hlength with hempty | hlong
      · exact h.1.name hempty
      · exact absurd h.1.short (not_le.mpr hlong)
    · rw [if_neg hlength]
      simp only [Bool.or_eq_true, List.isEmpty_iff, decide_eq_true_eq, not_or, not_lt] at hlength
      cases hlabels : countLabels ((stripRootDot value.toList).splitOn '.') 0 with
      | error error =>
        refine iff_of_false nofun fun h => ?_
        have hok : countLabels ((stripRootDot value.toList).splitOn '.') 0 = .ok (0 + _) :=
          countLabels_eq_ok_iff.mpr ⟨h.1.labels, rfl⟩
        exact nomatch hlabels.symm.trans hok
      | ok labelCount =>
        obtain ⟨hlabels, hcount⟩ := countLabels_eq_ok_iff.mp hlabels
        rw [Nat.zero_add] at hcount
        dsimp only
        rw [hcount]
        by_cases hfew : ((stripRootDot value.toList).splitOn '.').length < 2
        · rw [if_pos hfew]
          exact iff_of_false nofun fun h => absurd h.1.qualified (not_le.mpr hfew)
        · rw [if_neg hfew, Except.ok.injEq, eq_comm]
          refine (and_iff_right ?_).symm
          exact ⟨hascii.1, hascii.2, hlength.1, hlength.2, not_lt.mp hfew, hlabels⟩

theorem protocolParse_eq_ok_iff : protocolParse value = .ok name
    ↔ Checks value.toList ∧ name = lowercase (stripRootDot value.toList) := by
  unfold protocolParse
  by_cases hempty : value.toList.isEmpty = true
  · rw [if_pos hempty]
    exact iff_of_false nofun fun h => h.1.nonempty (List.isEmpty_iff.mp hempty)
  · rw [if_neg hempty]
    by_cases hnon : (!isAscii value.toList) = true
    · rw [if_pos hnon]
      rw [Bool.not_eq_true'] at hnon
      exact iff_of_false nofun fun h => absurd (hnon.symm.trans h.1.ascii) (by decide)
    · rw [if_neg hnon]
      rw [Bool.not_eq_true', Bool.not_eq_false] at hnon
      dsimp only
      by_cases hroot : (stripRootDot value.toList).isEmpty = true
      · rw [if_pos hroot]
        exact iff_of_false nofun fun h => h.1.name (List.isEmpty_iff.mp hroot)
      · rw [if_neg hroot]
        by_cases hlong : MAX_TAILNET_DNS_NAME_LEN < (stripRootDot value.toList).length
        · rw [if_pos hlong]
          exact iff_of_false nofun fun h => absurd h.1.short (not_le.mpr hlong)
        · rw [if_neg hlong]
          by_cases hfew : ((stripRootDot value.toList).splitOn '.').length < 2
          · rw [if_pos hfew]
            exact iff_of_false nofun fun h => absurd h.1.qualified (not_le.mpr hfew)
          · rw [if_neg hfew]
            rw [List.isEmpty_iff] at hempty hroot
            cases hlabels : checkLabels ((stripRootDot value.toList).splitOn '.') with
            | error error =>
              refine iff_of_false nofun fun h => ?_
              exact nomatch hlabels.symm.trans (checkLabels_eq_ok_iff.mpr h.1.labels)
            | ok _ =>
              have hvalid := checkLabels_eq_ok_iff.mp hlabels
              rw [Except.map, Except.ok.injEq, eq_comm]
              refine (and_iff_right ?_).symm
              exact ⟨hempty, hnon, hroot, not_lt.mp hlong, not_lt.mp hfew, hvalid⟩

/-- The canonical text of a name spells the name with its labels in lower case. -/
theorem spells_lowercase {labels : List (List Char)} (h : IsDnsName labels) :
    IsDnsName (labels.map (List.map Char.toLower))
      ∧ Spells (lowercase (join labels)).asStr (labels.map (List.map Char.toLower))
      ∧ lowercase (join (labels.map (List.map Char.toLower))) = lowercase (join labels) := by
  have hjoin := map_join Char.toLower rfl labels
  have hlength : (join (labels.map (List.map Char.toLower))).length = (join labels).length := by
    rw [← hjoin, List.length_map]
  refine ⟨⟨?_, ?_, ?_⟩, ?_, ?_⟩
  · rw [List.length_map]
    exact h.qualified
  · rw [hlength]
    exact h.short
  · intro lowered hmem
    obtain ⟨label, hlabel, rfl⟩ := List.mem_map.mp hmem
    have hvalid := h.labels label hlabel
    refine ⟨?_, ?_, ?_, ?_, ?_⟩
    · intro hnil
      exact hvalid.nonempty (List.map_eq_nil_iff.mp hnil)
    · rw [List.length_map]
      exact hvalid.short
    · rw [List.head?_map]
      intro hhyphen
      obtain ⟨c, hc, hlower⟩ := Option.map_eq_some_iff.mp hhyphen
      have hchar := hvalid.chars c (List.mem_of_head? hc)
      rw [toLower_eq_hyphen hchar hlower] at hc
      exact hvalid.first hc
    · rw [List.getLast?_map]
      intro hhyphen
      obtain ⟨c, hc, hlower⟩ := Option.map_eq_some_iff.mp hhyphen
      have hchar := hvalid.chars c (List.mem_of_getLast? hc)
      rw [toLower_eq_hyphen hchar hlower] at hc
      exact hvalid.last hc
    · intro c hc
      obtain ⟨d, hd, rfl⟩ := List.mem_map.mp hc
      exact isLabelChar_toLower (hvalid.chars d hd)
  · unfold Spells lowercase
    rw [String.toList_ofList]
    exact Or.inl hjoin
  · unfold lowercase
    rw [← hjoin, List.map_map]
    congr 2
    refine List.map_congr_left fun c hc => ?_
    rcases mem_join hc with rfl | ⟨label, hlabel, hmem⟩
    · rfl
    · exact toLower_toLower ((h.labels label hlabel).chars c hmem)

end TailnetDnsName

open TailnetDnsName

/-- **The two parsers agree.**  They accept the same texts, the DNS names, with the same canonical
text, and parse that text back unchanged. -/
theorem dns_parsers_agree (value : String) :
    (∀ name, controlParse value = .ok name ↔ protocolParse value = .ok name)
      ∧ ((∃ name, protocolParse value = .ok name)
        ↔ ∃ labels, IsDnsName labels ∧ Spells value labels)
      ∧ ∀ name, protocolParse value = .ok name →
        protocolParse name.asStr = .ok name ∧ controlParse name.asStr = .ok name := by
  refine ⟨fun name => ?_, ?_, fun name hname => ?_⟩
  · rw [controlParse_eq_ok_iff, protocolParse_eq_ok_iff]
  · constructor
    · rintro ⟨name, hname⟩
      obtain ⟨labels, hlabels, hspells, -⟩ := checks_iff.mp (protocolParse_eq_ok_iff.mp hname)
      exact ⟨labels, hlabels, hspells⟩
    · rintro ⟨labels, hlabels, hspells⟩
      exact ⟨_, protocolParse_eq_ok_iff.mpr (checks_iff.mpr ⟨labels, hlabels, hspells, rfl⟩)⟩
  · obtain ⟨labels, hlabels, -, rfl⟩ := checks_iff.mp (protocolParse_eq_ok_iff.mp hname)
    obtain ⟨hlowered, hspells, hsame⟩ := spells_lowercase hlabels
    have hchecks := checks_iff.mpr ⟨_, hlowered, hspells, hsame.symm⟩
    exact ⟨protocolParse_eq_ok_iff.mpr hchecks, controlParse_eq_ok_iff.mpr hchecks⟩

end Spurfire
