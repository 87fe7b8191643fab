import Spurfire.Lib.Json

/-!
# Scanning a document for a key

A program may look for a member of a compact JSON document by the bytes of its quoted key, without
parsing.  Documents are sequences of strings and other bytes here, so that every place where those
bytes can occur is known:

* `render` writes a document, with the escapes of `escapeByte` in its strings;
* `matchesFrom` are the places where some bytes occur;
* `Mimics` are the strings that show a quoted key, and `occurrences_render` counts the matches;
* `Frame` is a document with one string under the key left open.
-/

namespace JsonScan

open Json (ascii)

def QUOTE : UInt8 := 34
def BACKSLASH : UInt8 := 92

/-- A byte that may follow a string. -/
def isSeparator (b : UInt8) : Bool := b == 44 || b == 58 || b == 93 || b == 125

/-- A byte that is written as it is. -/
def isPlain (b : UInt8) : Bool := 32 ≤ b && b != QUOTE && b != BACKSLASH

def hexDigits : List UInt8 := ascii "0123456789abcdef".toList

/-- The escapes of `serde_json`. -/
def escapeByte (b : UInt8) : List UInt8 :=
  if isPlain b then [b]
  else if b = QUOTE ∨ b = BACKSLASH then [BACKSLASH, b]
  else if b = 8 then [BACKSLASH, 98]
  else if b = 9 then [BACKSLASH, 116]
  else if b = 10 then [BACKSLASH, 110]
  else if b = 12 then [BACKSLASH, 102]
  else if b = 13 then [BACKSLASH, 114]
  else [BACKSLASH, 117, 48, 48, hexDigits.getD (b.toNat / 16) 48, hexDigits.getD (b.toNat % 16) 48]

/-! ## Documents -/

inductive Token
  /-- A byte outside of strings. -/
  | mark (byte : UInt8)
  | text (s : List UInt8)
deriving DecidableEq

abbrev Document := List Token

def renderText (s : List UInt8) : List UInt8 := QUOTE :: s.flatMap escapeByte ++ [QUOTE]

def render : Document → List UInt8
  | [] => []
  | .mark b :: d => b :: render d
  | .text s :: d => renderText s ++ render d

def texts : Document → List (List UInt8)
  | [] => []
  | .mark _ :: d => texts d
  | .text s :: d => s :: texts d

def literal (bytes : List UInt8) : Document := bytes.map .mark

def textItem (s : List UInt8) : Document := [.text s]

def joined : List Document → Document
  | [] => []
  | [d] => d
  | d :: e :: ds => d ++ .mark 44 :: joined (e :: ds)

def array (items : List Document) : Document := .mark 91 :: joined items ++ [.mark 93]

def member (field : List UInt8 × Document) : Document := .text field.1 :: .mark 58 :: field.2

def object (fields : List (List UInt8 × Document)) : Document :=
  .mark 123 :: joined (fields.map member) ++ [.mark 125]

theorem render_append (d e : Document) : render (d ++ e) = render d ++ render e := by
  induction d with
  | nil => rfl
  | cons token d ih =>
    cases token with
    | mark b => exact congrArg (b :: ·) ih
    | text s =>
      rw [List.cons_append, render, render, ih, List.append_assoc]

@[simp] theorem texts_append (d e : Document) : texts (d ++ e) = texts d ++ texts e := by
  induction d with
  | nil => rfl
  | cons token d ih =>
    cases token with
    | mark b => exact ih
    | text s => exact congrArg (s :: ·) ih

@[simp] theorem texts_literal (bytes : List UInt8) : texts (literal bytes) = [] := by
  induction bytes with
  | nil => rfl
  | cons b bytes ih => exact ih

theorem texts_joined (ds : List Document) : texts (joined ds) = ds.flatMap texts := by
  induction ds with
  | nil => rfl
  | cons d ds ih =>
    cases ds with
    | nil => simp [joined]
    | cons e ds =>
      rw [joined, texts_append, List.flatMap_cons]
      exact congrArg (texts d ++ ·) ih

@[simp] theorem texts_array (items : List Document) : texts (array items) = items.flatMap texts := by
  simp [array, texts, texts_joined]

@[simp] theorem texts_textItem (s : List UInt8) : texts (textItem s) = [s] := rfl

/-- The strings of the members of an object. -/
def memberTexts (fields : List (List UInt8 × Document)) : List (List UInt8) :=
  fields.flatMap fun field => field.1 :: texts field.2

@[simp] theorem memberTexts_nil : memberTexts [] = [] := rfl

@[simp] theorem memberTexts_cons (field : List UInt8 × Document)
    (fields : List (List UInt8 × Document)) :
    memberTexts (field :: fields) = field.1 :: texts field.2 ++ memberTexts fields := rfl

@[simp] theorem memberTexts_append (fields rest : List (List UInt8 × Document)) :
    memberTexts (fields ++ rest) = memberTexts fields ++ memberTexts rest :=
  List.flatMap_append

@[simp] theorem texts_object (fields : List (List UInt8 × Document)) :
    texts (object fields) = memberTexts fields := by
  simp [object, texts, texts_joined, memberTexts, List.flatMap_map, member]

/-! ### Lengths -/

theorem length_render_joined_le {ds : List Document} {k : ℕ} (h : ∀ d ∈ ds, (render d).length ≤ k) :
    (render (joined ds)).length ≤ ds.length * (k + 1) := by
  induction ds with
  | nil => exact Nat.zero_le _
  | cons d ds ih =>
    have hd := h d List.mem_cons_self
    have hds := ih fun e he => h e (List.mem_cons_of_mem d he)
    cases ds with
    | nil =>
      rw [joined, List.length_singleton]
      omega
    | cons e ds =>
      simp only [joined, render_append, render, List.length_append, List.length_cons,
        Nat.add_mul] at hds ⊢
      omega

theorem le_length_render_joined {ds : List Document} {k : ℕ} (h : ∀ d ∈ ds, k ≤ (render d).length) :
    ds.length * k ≤ (render (joined ds)).length := by
  induction ds with
  | nil => exact (Nat.zero_mul k).le
  | cons d ds ih =>
    have hd := h d List.mem_cons_self
    have hds := ih fun e he => h e (List.mem_cons_of_mem d he)
    cases ds with
    | nil =>
      rw [joined, List.length_singleton, Nat.one_mul]
      exact hd
    | cons e ds =>
      simp only [joined, render_append, render, List.length_append, List.length_cons,
        Nat.add_mul] at hds ⊢
      omega

/-- A part is no longer than the whole. -/
theorem length_render_le_joined {ds : List Document} {d : Document} (h : d ∈ ds) :
    (render d).length ≤ (render (joined ds)).length := by
  induction ds with
  | nil => exact nomatch h
  | cons first ds ih =>
    cases ds with
    | nil => rw [List.mem_singleton.mp h, joined]
    | cons second ds =>
      rw [joined, render_append, render, List.length_append, List.length_cons]
      rcases List.mem_cons.mp h with rfl | h
      · omega
      · have := ih h
        omega

theorem length_render_le_object {fields : List (List UInt8 × Document)}
    {field : List UInt8 × Document} (h : field ∈ fields) :
    (render field.2).length ≤ (render (object fields)).length := by
  have hmember := length_render_le_joined (List.mem_map_of_mem (f := member) h)
  rw [member, render, render, List.length_append, List.length_cons] at hmember
  rw [object, List.cons_append, render, render_append, List.length_cons, List.length_append]
  omega

/-! ### Tidy documents -/

/-- The document may follow a string. -/
def Opens : Document → Prop
  | [] => True
  | .mark b :: _ => isSeparator b = true
  | .text _ :: _ => False

/-- No quote stands outside of strings, and every string is followed by a separator. -/
def Tidy : Document → Prop
  | [] => True
  | .mark b :: d => b ≠ QUOTE ∧ Tidy d
  | .text _ :: d => Opens d ∧ Tidy d

theorem Tidy.append {d e : Document} (hd : Tidy d) (he : Tidy e) (hopens : Opens e) :
    Tidy (d ++ e) := by
  induction d with
  | nil => exact he
  | cons token d ih =>
    cases token with
    | mark b => exact ⟨hd.1, ih hd.2⟩
    | text s =>
      refine ⟨?_, ih hd.2⟩
      cases d with
      | nil => exact hopens
      | cons next d =>
        cases next with
        | mark b => exact hd.1
        | text t => exact hd.1

theorem tidy_literal {bytes : List UInt8} (h : QUOTE ∉ bytes) : Tidy (literal bytes) := by
  induction bytes with
  | nil => trivial
  | cons b bytes ih =>
    rw [List.mem_cons, not_or] at h
    exact ⟨Ne.symm h.1, ih h.2⟩

@[simp] theorem tidy_textItem (s : List UInt8) : Tidy (textItem s) := ⟨trivial, trivial⟩

theorem tidy_joined {ds : List Document} (h : ∀ d ∈ ds, Tidy d) : Tidy (joined ds) := by
  induction ds with
  | nil => trivial
  | cons d ds ih =>
    cases ds with
    | nil => exact h d List.mem_cons_self
    | cons e ds =>
      refine (h d List.mem_cons_self).append ⟨by decide, ih fun x hx => ?_⟩ rfl
      exact h x (List.mem_cons_of_mem d hx)

theorem tidy_array {items : List Document} (h : ∀ d ∈ items, Tidy d) : Tidy (array items) :=
  ⟨by decide, (tidy_joined h).append ⟨by decide, trivial⟩ rfl⟩

def TidyMembers (fields : List (List UInt8 × Document)) : Prop := ∀ field ∈ fields, Tidy field.2

@[simp] theorem tidyMembers_nil : TidyMembers [] := by
  simp [TidyMembers]

@[simp] theorem tidyMembers_cons {field : List UInt8 × Document}
    {fields : List (List UInt8 × Document)} :
    TidyMembers (field :: fields) ↔ Tidy field.2 ∧ TidyMembers fields := by
  simp [TidyMembers]

@[simp] theorem tidyMembers_append {fields rest : List (List UInt8 × Document)} :
    TidyMembers (fields ++ rest) ↔ TidyMembers fields ∧ TidyMembers rest := by
  simp only [TidyMembers, List.mem_append, or_imp, forall_and]

theorem tidy_object {fields : List (List UInt8 × Document)} (h : TidyMembers fields) :
    Tidy (object fields) := by
  refine ⟨by decide, (tidy_joined fun d hd => ?_).append ⟨by decide, trivial⟩ rfl⟩
  obtain ⟨field, hfield, rfl⟩ := List.mem_map.mp hd
  exact ⟨rfl, by decide, h field hfield⟩

/-! ## Matches -/

/-- The places, counted from `index`, where the bytes begin with `needle`. -/
def matchesFrom (needle : List UInt8) (index : ℕ) : List UInt8 → List ℕ
  | [] => []
  | b :: bytes =>
    if needle.isPrefixOf (b :: bytes) then index :: matchesFrom needle (index + 1) bytes
    else matchesFrom needle (index + 1) bytes

def occurrences (needle : List UInt8) : List UInt8 → ℕ
  | [] => 0
  | b :: bytes => (if needle <+: b :: bytes then 1 else 0) + occurrences needle bytes

theorem length_matchesFrom (needle : List UInt8) (index : ℕ) (bytes : List UInt8) :
    (matchesFrom needle index bytes).length = occurrences needle bytes := by
  induction bytes generalizing index with
  | nil => rfl
  | cons b bytes ih =>
    unfold matchesFrom occurrences
    by_cases h : needle <+: b :: bytes
    · rw [if_pos (List.isPrefixOf_iff_prefix.mpr h), if_pos h, List.length_cons, ih]
      exact Nat.add_comm _ _
    · rw [if_neg (mt List.isPrefixOf_iff_prefix.mp h), if_neg h, ih, Nat.zero_add]

theorem mem_matchesFrom {needle : List UInt8} (hneedle : needle ≠ []) (before after : List UInt8)
    (index : ℕ) :
    index + before.length ∈ matchesFrom needle index (before ++ needle ++ after) := by
  induction before generalizing index with
  | nil =>
    obtain ⟨b, needle, rfl⟩ := List.exists_cons_of_ne_nil hneedle
    have hpre : (b :: needle).isPrefixOf (b :: (needle ++ after)) = true :=
      List.isPrefixOf_iff_prefix.mpr (List.prefix_append (b :: needle) after)
    rw [List.nil_append, List.cons_append, matchesFrom, if_pos hpre]
    exact List.mem_cons_self
  | cons b before ih =>
    have hrest := ih (index + 1)
    rw [List.length_cons, Nat.add_comm before.length 1, ← Nat.add_assoc]
    rw [List.cons_append, List.cons_append, matchesFrom]
    split_ifs
    · exact List.mem_cons_of_mem _ hrest
    · exact hrest

/-! ## Quoted keys -/

def quoted (key : List UInt8) : List UInt8 := QUOTE :: key ++ [QUOTE]

/-- A key that is written as it is, and that no separator begins. -/
def IsKey (key : List UInt8) : Prop :=
  key ≠ [] ∧ ∀ b ∈ key, isPlain b = true ∧ isSeparator b = false

/-- The written string contains the quoted key: it is the key, or ends in a quote and the key. -/
def Mimics (key s : List UInt8) : Prop := s = key ∨ QUOTE :: key <:+ s

instance (key s : List UInt8) : Decidable (Mimics key s) := inferInstanceAs (Decidable (_ ∨ _))

/-- The quotes of a string that the key follows, up to its end. -/
def innerHits (key : List UInt8) : List UInt8 → ℕ
  | [] => 0
  | b :: s => (if b = QUOTE ∧ s = key then 1 else 0) + innerHits key s

def hits (key s : List UInt8) : ℕ := (if s = key then 1 else 0) + innerHits key s

theorem innerHits_eq_zero_iff {key s : List UInt8} :
    innerHits key s = 0 ↔ ¬QUOTE :: key <:+ s := by
  induction s with
  | nil => simp [innerHits]
  | cons b s ih =>
    rw [innerHits, Nat.add_eq_zero_iff, ih, List.suffix_cons_iff, not_or, List.cons.injEq]
    refine and_congr_left fun _ => ?_
    by_cases h : b = QUOTE ∧ s = key
    · rw [if_pos h]
      exact iff_of_false Nat.one_ne_zero (not_not.mpr ⟨h.1.symm, h.2.symm⟩)
    · rw [if_neg h]
      exact iff_of_true rfl fun h' => h ⟨h'.1.symm, h'.2.symm⟩

theorem hits_eq_zero_iff {key s : List UInt8} : hits key s = 0 ↔ ¬Mimics key s := by
  unfold hits Mimics
  rw [Nat.add_eq_zero_iff, innerHits_eq_zero_iff, not_or]
  refine and_congr_left fun _ => ?_
  by_cases h : s = key
  · rw [if_pos h]
    exact iff_of_false Nat.one_ne_zero (not_not.mpr h)
  · rw [if_neg h]
    exact iff_of_true rfl h

/-- A string without quotes only mimics the key by being it. -/
theorem not_mimics {key s : List UInt8} (hquote : QUOTE ∉ s) (hne : s ≠ key) : ¬Mimics key s := by
  rintro (rfl | hsuffix)
  · exact hne rfl
  · exact hquote (hsuffix.subset List.mem_cons_self)

/-- Some of the strings mimics the key. -/
def Shows (key : List UInt8) (ts : List (List UInt8)) : Prop := ∃ t ∈ ts, Mimics key t

section Shows

variable {key : List UInt8}

@[simp] theorem not_shows_nil : ¬Shows key [] := by
  simp [Shows]

@[simp] theorem shows_cons {t : List UInt8} {ts : List (List UInt8)} :
    Shows key (t :: ts) ↔ Mimics key t ∨ Shows key ts := by
  simp [Shows]

@[simp] theorem shows_append {ts us : List (List UInt8)} :
    Shows key (ts ++ us) ↔ Shows key ts ∨ Shows key us := by
  simp [Shows, or_and_right, exists_or]

@[simp] theorem shows_flatMap {α : Type*} {f : α → List (List UInt8)} {as : List α} :
    Shows key (as.flatMap f) ↔ ∃ a ∈ as, Shows key (f a) := by
  simp only [Shows, List.mem_flatMap]
  constructor
  · rintro ⟨t, ⟨a, ha, ht⟩, hmimics⟩
    exact ⟨a, ha, t, ht, hmimics⟩
  · rintro ⟨a, ha, t, ht, hmimics⟩
    exact ⟨t, ⟨a, ha, ht⟩, hmimics⟩

theorem shows_memberTexts_cons (field : List UInt8 × Document)
    {fields : List (List UInt8 × Document)} :
    Shows key (memberTexts (field :: fields))
      ↔ Mimics key field.1 ∨ Shows key (texts field.2) ∨ Shows key (memberTexts fields) := by
  rw [memberTexts_cons, List.cons_append, shows_cons, shows_append]

end Shows

/-! ### Written strings -/

theorem hexDigit_ne_quote (n : ℕ) : hexDigits.getD n 48 ≠ QUOTE := by
  rw [List.getD_eq_getElem?_getD]
  cases h : hexDigits[n]? with
  | none => decide
  | some b =>
    have hall : (hexDigits.all fun b => decide (b ≠ QUOTE)) = true := by decide +kernel
    exact of_decide_eq_true (List.all_eq_true.mp hall b (List.mem_of_getElem? h))

/-- A byte that is not plain is written with a backslash and, unless it is a quote, without one. -/
theorem escapeByte_of_not_plain {b : UInt8} (h : isPlain b = false) :
    ∃ tail, escapeByte b = BACKSLASH :: tail ∧ (b = QUOTE → tail = [QUOTE])
      ∧ (b ≠ QUOTE → QUOTE ∉ tail) := by
  unfold escapeByte
  rw [if_neg (by simp [h])]
  split_ifs with hsame
  · refine ⟨[b], rfl, fun hb => by rw [hb], fun hb hmem => ?_⟩
    exact hb (List.mem_singleton.mp hmem).symm
  all_goals
    refine ⟨_, rfl, fun hb => absurd (.inl hb) hsame, fun _ => ?_⟩
  on_goal 6 =>
    simp only [List.mem_cons, List.not_mem_nil, or_false, not_or]
    exact ⟨by decide, by decide, by decide, (hexDigit_ne_quote _).symm, (hexDigit_ne_quote _).symm⟩
  all_goals decide

theorem escapeByte_of_plain {b : UInt8} (h : isPlain b = true) : escapeByte b = [b] := if_pos h

theorem escape_of_plain {s : List UInt8} (h : ∀ b ∈ s, isPlain b = true) :
    s.flatMap escapeByte = s := by
  induction s with
  | nil => rfl
  | cons b s ih =>
    rw [List.flatMap_cons, escapeByte_of_plain (h b List.mem_cons_self),
      ih fun c hc => h c (List.mem_cons_of_mem b hc)]
    rfl

/-- The written string goes on with the key and a quote exactly where it is the key. -/
theorem key_prefix_iff {key : List UInt8} (hkey : ∀ b ∈ key, isPlain b = true)
    (s rest : List UInt8) :
    key ++ [QUOTE] <+: s.flatMap escapeByte ++ QUOTE :: rest ↔ s = key := by
  induction key generalizing s with
  | nil =>
    cases s with
    | nil => exact iff_of_true (List.prefix_append [QUOTE] rest) rfl
    | cons b s =>
      refine iff_of_false (fun hpre => ?_) (List.cons_ne_nil b s)
      cases hplain : isPlain b with
      | true =>
        rw [List.flatMap_cons, escapeByte_of_plain hplain] at hpre
        have hb := (List.cons_prefix_cons.mp hpre).1
        exact nomatch (hb ▸ hplain : isPlain QUOTE = true)
      | false =>
        obtain ⟨tail, htail, -⟩ := escapeByte_of_not_plain hplain
        rw [List.flatMap_cons, htail] at hpre
        exact nomatch (List.cons_prefix_cons.mp hpre).1
  | cons k key ih =>
    have hk := hkey k List.mem_cons_self
    cases s with
    | nil =>
      refine iff_of_false (fun hpre => ?_) (List.cons_ne_nil k key).symm
      have hq : k = QUOTE := (List.cons_prefix_cons.mp hpre).1
      exact nomatch (hq ▸ hk : isPlain QUOTE = true)
    | cons b s =>
      cases hplain : isPlain b with
      | true =>
        rw [List.flatMap_cons, escapeByte_of_plain hplain, List.singleton_append, List.cons_append,
          List.cons_append, List.cons_prefix_cons, List.cons.injEq,
          ih (fun c hc => hkey c (List.mem_cons_of_mem k hc)) s, eq_comm]
      | false =>
        obtain ⟨tail, htail, -⟩ := escapeByte_of_not_plain hplain
        refine iff_of_false (fun hpre => ?_) fun heq => ?_
        · rw [List.flatMap_cons, htail] at hpre
          have hb : k = BACKSLASH := (List.cons_prefix_cons.mp hpre).1
          exact nomatch (hb ▸ hk : isPlain BACKSLASH = true)
        · cases heq
          exact nomatch hk.symm.trans hplain

theorem occurrences_of_not_quote {key bytes rest : List UInt8} (h : QUOTE ∉ bytes) :
    occurrences (quoted key) (bytes ++ rest) = occurrences (quoted key) rest := by
  induction bytes with
  | nil => rfl
  | cons b bytes ih =>
    rw [List.mem_cons, not_or] at h
    rw [List.cons_append, occurrences, if_neg, ih h.2, Nat.zero_add]
    exact fun hpre => h.1 (List.cons_prefix_cons.mp hpre).1

theorem occurrences_escape {key : List UInt8} (hkey : ∀ b ∈ key, isPlain b = true)
    (s rest : List UInt8) :
    occurrences (quoted key) (s.flatMap escapeByte ++ QUOTE :: rest)
      = innerHits key s + occurrences (quoted key) (QUOTE :: rest) := by
  induction s with
  | nil => exact (Nat.zero_add _).symm
  | cons b s ih =>
    rw [List.flatMap_cons, List.append_assoc, innerHits, Nat.add_assoc, ← ih]
    by_cases hquote : b = QUOTE
    · subst hquote
      obtain ⟨tail, htail, hself, -⟩ := escapeByte_of_not_plain (show isPlain QUOTE = false from rfl)
      rw [htail, hself rfl, List.cons_append, List.singleton_append, occurrences, if_neg,
        Nat.zero_add, occurrences]
      · congr 1
        refine if_congr ?_ rfl rfl
        rw [quoted, List.cons_append, List.cons_prefix_cons, key_prefix_iff hkey]
      · exact fun hpre => nomatch (List.cons_prefix_cons.mp hpre).1
    · rw [if_neg fun h => hquote h.1, Nat.zero_add, occurrences_of_not_quote]
      cases hplain : isPlain b with
      | true =>
        rw [escapeByte_of_plain hplain]
        exact fun hmem => hquote (List.mem_singleton.mp hmem).symm
      | false =>
        obtain ⟨tail, htail, -, hother⟩ := escapeByte_of_not_plain hplain
        rw [htail, List.mem_cons, not_or]
        exact ⟨by decide, hother hquote⟩

/-- The quoted key occurs in a tidy document exactly where a string shows it. -/
theorem occurrences_render {key : List UInt8} (hkey : IsKey key) {d : Document} (hd : Tidy d) :
    occurrences (quoted key) (render d) = ((texts d).map (hits key)).sum := by
  have hplain : ∀ b ∈ key, isPlain b = true := fun b hb => (hkey.2 b hb).1
  induction d with
  | nil => rfl
  | cons token d ih =>
    cases token with
    | mark b =>
      rw [render, occurrences, if_neg, Nat.zero_add]
      · exact ih hd.2
      · exact fun hpre => hd.1 (List.cons_prefix_cons.mp hpre).1.symm
    | text s =>
      -- The quote that closes the string is followed by a separator.
      have hclose : ¬quoted key <+: QUOTE :: render d := by
        obtain ⟨k, key, rfl⟩ := List.exists_cons_of_ne_nil hkey.1
        intro hpre
        have hrest := (List.cons_prefix_cons.mp hpre).2
        cases d with
        | nil => exact nomatch List.prefix_nil.mp hrest
        | cons next d =>
          cases next with
          | mark b =>
            have hb := (List.cons_prefix_cons.mp hrest).1
            have hopens : isSeparator b = true := hd.1
            exact nomatch (hb ▸ (hkey.2 k List.mem_cons_self).2).symm.trans hopens
          | text t => exact hd.1
      have hwritten : renderText s ++ render d
          = QUOTE :: (s.flatMap escapeByte ++ QUOTE :: render d) := by
        simp [renderText]
      rw [render, hwritten, occurrences, occurrences_escape hplain, occurrences, if_neg hclose,
        ih hd.2, texts, List.map_cons, List.sum_cons, hits]
      have hfirst : quoted key <+: QUOTE :: (s.flatMap escapeByte ++ QUOTE :: render d) ↔ s = key := by
        rw [quoted, List.cons_append, List.cons_prefix_cons, key_prefix_iff hplain]
        exact and_iff_right rfl
      rw [if_congr hfirst rfl rfl]
      omega

/-! ## Members -/

/-- The document `f s` has the string `s` under the key, between parts that do not depend on it and
have the strings `others`. -/
def Frame (key : List UInt8) (f : List UInt8 → Document) (others : List (List UInt8)) : Prop :=
  ∃ before after, (∀ s, f s = before ++ [.text key, .mark 58, .text s] ++ after)
    ∧ others = texts before ++ texts after

theorem joined_split (pre post : List Document) :
    ∃ before after, (∀ d, joined (pre ++ d :: post) = before ++ d ++ after)
      ∧ texts before = pre.flatMap texts ∧ texts after = post.flatMap texts := by
  induction pre with
  | nil =>
    cases post with
    | nil => exact ⟨[], [], fun d => (List.append_nil d).symm, rfl, rfl⟩
    | cons e post =>
      exact ⟨[], .mark 44 :: joined (e :: post), fun d => rfl, rfl, texts_joined (e :: post)⟩
  | cons p pre ih =>
    obtain ⟨before, after, hsplit, hbefore, hafter⟩ := ih
    refine ⟨p ++ .mark 44 :: before, after, fun d => ?_, ?_, hafter⟩
    · obtain ⟨next, rest, hnext⟩ := List.exists_cons_of_ne_nil
        (show pre ++ d :: post ≠ [] by simp)
      rw [List.cons_append, hnext, joined, ← hnext, hsplit]
      simp
    · rw [texts_append, List.flatMap_cons, ← hbefore]
      rfl

theorem frame_member (key : List UInt8) (pre post : List (List UInt8 × Document)) :
    Frame key (fun s => object (pre ++ (key, textItem s) :: post))
      (memberTexts pre ++ memberTexts post) := by
  obtain ⟨before, after, hsplit, hbefore, hafter⟩ := joined_split (pre.map member) (post.map member)
  refine ⟨.mark 123 :: before, after ++ [.mark 125], fun s => ?_, ?_⟩
  · simp only [object, List.map_append, List.map_cons, hsplit]
    simp [member, textItem]
  · simp [texts, hbefore, hafter, memberTexts, List.flatMap_map, member]

theorem Frame.nested {key : List UInt8} {f : List UInt8 → Document} {others : List (List UInt8)}
    (h : Frame key f others) (name : List UInt8) (pre post : List (List UInt8 × Document)) :
    Frame key (fun s => object (pre ++ (name, f s) :: post))
      (memberTexts pre ++ name :: others ++ memberTexts post) := by
  obtain ⟨inner, outer, hinner, hothers⟩ := h
  obtain ⟨before, after, hsplit, hbefore, hafter⟩ := joined_split (pre.map member) (post.map member)
  refine ⟨.mark 123 :: before ++ .text name :: .mark 58 :: inner, outer ++ (after ++ [.mark 125]),
    fun s => ?_, ?_⟩
  · simp only [object, List.map_append, List.map_cons, hsplit, member, hinner]
    simp
  · simp [texts, hbefore, hafter, memberTexts, List.flatMap_map, member, hothers]

/-- The key is found at its member alone, unless another string shows it. -/
theorem matches_frame {key : List UInt8} (hkey : IsKey key) {before after : Document}
    {s : List UInt8} (hd : Tidy (before ++ [.text key, .mark 58, .text s] ++ after))
    (hs : ¬Mimics key s) :
    ((∀ t ∈ texts before ++ texts after, ¬Mimics key t) →
        matchesFrom (quoted key) 0 (render (before ++ [.text key, .mark 58, .text s] ++ after))
          = [(render before).length])
      ∧ ((∃ t ∈ texts before ++ texts after, Mimics key t) →
        1 < (matchesFrom (quoted key) 0
          (render (before ++ [.text key, .mark 58, .text s] ++ after))).length) := by
  have hplain : ∀ b ∈ key, isPlain b = true := fun b hb => (hkey.2 b hb).1
  have hself : hits key key = 1 := by
    have hinner : innerHits key key = 0 := by
      rw [innerHits_eq_zero_iff]
      intro hsuffix
      have := hsuffix.length_le
      rw [List.length_cons] at this
      omega
    rw [hits, if_pos rfl, hinner]
  have hlength := length_matchesFrom (quoted key) 0
    (render (before ++ [.text key, .mark 58, .text s] ++ after))
  rw [occurrences_render hkey hd] at hlength
  simp only [texts_append, texts, List.map_append, List.map_cons, List.map_nil, List.sum_append,
    List.sum_cons, List.sum_nil, hself, hits_eq_zero_iff.mpr hs] at hlength
  constructor
  · intro hothers
    have hnone : ∀ l : List (List UInt8), (∀ t ∈ l, ¬Mimics key t) → (l.map (hits key)).sum = 0 := by
      intro l hl
      refine List.sum_eq_zero fun n hn => ?_
      obtain ⟨t, ht, rfl⟩ := List.mem_map.mp hn
      exact hits_eq_zero_iff.mpr (hl t ht)
    rw [hnone _ fun t ht => hothers t (List.mem_append_left _ ht),
      hnone _ fun t ht => hothers t (List.mem_append_right _ ht)] at hlength
    obtain ⟨index, hindex⟩ := List.length_eq_one_iff.mp hlength
    have hmem := mem_matchesFrom (show quoted key ≠ [] from List.cons_ne_nil _ _) (render before)
      (render ([.mark 58, .text s] ++ after)) 0
    have hbytes : render (before ++ [.text key, .mark 58, .text s] ++ after)
        = render before ++ quoted key ++ render ([.mark 58, .text s] ++ after) := by
      rw [List.append_assoc, render_append]
      simp [render, renderText, quoted, escape_of_plain hplain]
    rw [← hbytes, hindex, Nat.zero_add] at hmem
    rw [hindex, List.mem_singleton.mp hmem]
  · rintro ⟨t, ht, hmimics⟩
    have hpos : 0 < hits key t := Nat.pos_of_ne_zero fun hzero =>
      hits_eq_zero_iff.mp hzero hmimics
    have hle : ∀ l : List (List UInt8), t ∈ l → hits key t ≤ (l.map (hits key)).sum :=
      fun l hl => List.single_le_sum (fun _ _ => Nat.zero_le _) _ (List.mem_map_of_mem hl)
    rcases List.mem_append.mp ht with ht | ht
    · have := hle _ ht
      omega
    · have := hle _ ht
      omega

end JsonScan
