import Mathlib.Algebra.Ring.Nat
import Mathlib.Data.Int.Notation
import Mathlib.Data.List.TakeWhile
import SauronID.Lib.Text

/-!
# Encodings that can be read back

A byte string behind its length can be split off what follows it, so a sequence of them
determines its parts. This holds as long as every length fits the four bytes it is
written in. Texts with a separator between them determine their parts only if no part
contains the separator.
-/

namespace SauronID.Text

theorem utf8_injective : Function.Injective utf8 := by
  intro s s' h
  have hbytes : s.toUTF8 = s'.toUTF8 := ByteArray.ext (Array.toList_inj.1 h)
  exact String.toByteArray_inj.1 hbytes

theorem hexEncode_injective : Function.Injective hexEncode := by
  intro bs bs' h
  have hdecode := congrArg hexDecode h
  rw [hexDecode_hexEncode, hexDecode_hexEncode] at hdecode
  exact Option.some.inj hdecode

@[simp] theorem length_leBytes (k n : ℕ) : (leBytes k n).length = k := by
  induction k generalizing n with
  | zero => rfl
  | succ k ih => simp [leBytes, ih]

variable {n : ℕ}

/-- Numbers below `256 ^ k` are determined by their `k` low bytes. -/
theorem leBytes_inj {k m : ℕ} (hm : m < 256 ^ k) (hn : n < 256 ^ k)
    (h : leBytes k m = leBytes k n) : m = n := by
  induction k generalizing m n with
  | zero => omega
  | succ k ih =>
    obtain ⟨hlow, hrest⟩ := List.cons.inj h
    have hlow' : m % 256 = n % 256 := by
      have := congrArg UInt8.toNat hlow
      simpa using this
    have hhigh : m / 256 = n / 256 := by
      refine ih ?_ ?_ hrest <;> rw [Nat.div_lt_iff_lt_mul (by decide), ← Nat.pow_succ] <;>
        assumption
    rw [← Nat.div_add_mod m 256, ← Nat.div_add_mod n 256, hhigh, hlow']

/-- A byte string whose length can be written in front of it. -/
def Fits (bs : Bytes) : Prop := bs.length < 2 ^ 32

instance (bs : Bytes) : Decidable (Fits bs) := inferInstanceAs (Decidable (_ < _))

variable {s : String}

theorem fits_utf8 : Fits (utf8 s) ↔ s.utf8ByteSize < 2 ^ 32 := Iff.rfl

/-- A length-prefixed string is determined by any bytes that it starts. -/
theorem lengthPrefixed_append_inj {a b x y : Bytes} (ha : Fits a) (hb : Fits b)
    (h : lengthPrefixed a ++ x = lengthPrefixed b ++ y) : a = b ∧ x = y := by
  simp only [lengthPrefixed, List.append_assoc] at h
  obtain ⟨hlen, hrest⟩ := List.append_inj h (by simp [beBytes])
  exact List.append_inj hrest (leBytes_inj ha hb (List.reverse_injective hlen))

/-- The fields of a message, each name and value behind its length. -/
def encodeFields (fields : List (Bytes × Bytes)) : Bytes :=
  fields.flatMap fun p => lengthPrefixed p.1 ++ lengthPrefixed p.2

theorem encodeFields_cons (p : Bytes × Bytes) (fields : List (Bytes × Bytes)) :
    encodeFields (p :: fields) =
      lengthPrefixed p.1 ++ (lengthPrefixed p.2 ++ encodeFields fields) := by
  simp [encodeFields]

theorem encodeFields_cons_ne_nil (p : Bytes × Bytes) (fields : List (Bytes × Bytes)) :
    encodeFields (p :: fields) ≠ [] := by
  intro h
  have := congrArg List.length h
  simp [encodeFields, lengthPrefixed, beBytes] at this

/-- The fields of a message can be read back, whatever they contain. -/
theorem encodeFields_inj {fs gs : List (Bytes × Bytes)} (hf : ∀ p ∈ fs, Fits p.1 ∧ Fits p.2)
    (hg : ∀ p ∈ gs, Fits p.1 ∧ Fits p.2) (h : encodeFields fs = encodeFields gs) : fs = gs := by
  induction fs generalizing gs with
  | nil =>
    cases gs with
    | nil => rfl
    | cons q gs => exact absurd h.symm (encodeFields_cons_ne_nil q gs)
  | cons p fs ih =>
    cases gs with
    | nil => exact absurd h (encodeFields_cons_ne_nil p fs)
    | cons q gs =>
      rw [List.forall_mem_cons] at hf hg
      rw [encodeFields_cons, encodeFields_cons] at h
      obtain ⟨hname, h⟩ := lengthPrefixed_append_inj hf.1.1 hg.1.1 h
      obtain ⟨hvalue, h⟩ := lengthPrefixed_append_inj hf.1.2 hg.1.2 h
      rw [ih hf.2 hg.2 h, Prod.ext hname hvalue]

/-! ## Parts between separators -/

section Separated

variable {α : Type} [DecidableEq α] {c : α} {fs gs : List (List α)}

/-- The separators of a joined list: one between two parts, and those inside a part. -/
theorem count_intercalate (hne : fs ≠ []) :
    ([c].intercalate fs).count c + 1 = (fs.map (List.count c)).sum + fs.length := by
  induction fs with
  | nil => exact absurd rfl hne
  | cons f fs ih =>
    cases fs with
    | nil => simp
    | cons g fs =>
      have hrec := ih (List.cons_ne_nil g fs)
      rw [List.intercalate_cons_cons, List.count_append, List.count_append, List.map_cons,
        List.sum_cons, List.length_cons, List.count_singleton_self]
      omega

/-- Parts without the separator are determined by the joined list and their number, even
among parts that may contain it. -/
theorem intercalate_inj (hlen : fs.length = gs.length) (hfs : ∀ f ∈ fs, c ∉ f)
    (h : [c].intercalate fs = [c].intercalate gs) : fs = gs := by
  by_cases hne : fs = []
  · rw [hne] at hlen ⊢
    exact (List.length_eq_zero_iff.1 hlen.symm).symm
  · have hne' : gs ≠ [] := fun h0 => hne (List.length_eq_zero_iff.1 (by rw [hlen, h0]; rfl))
    have hzero : (fs.map (List.count c)).sum = 0 := by
      refine List.sum_eq_zero_iff_forall_eq_nat.2 fun n hn => ?_
      obtain ⟨f, hf, rfl⟩ := List.mem_map.1 hn
      exact List.count_eq_zero.2 (hfs f hf)
    -- the other list has no separator to spare either
    have hzero' : (gs.map (List.count c)).sum = 0 := by
      have hcount := count_intercalate (c := c) hne
      have hcount' := count_intercalate (c := c) hne'
      rw [h] at hcount
      omega
    have hgs : ∀ g ∈ gs, c ∉ g := fun g hg =>
      List.count_eq_zero.1 (List.sum_eq_zero_iff_forall_eq_nat.1 hzero' _ (List.mem_map_of_mem hg))
    rw [← List.splitOn_intercalate c hfs hne, ← List.splitOn_intercalate c hgs hne', h]

omit [DecidableEq α] in
/-- A part without the separator can be split off what follows it. -/
theorem append_cons_inj {a b x y : List α} (ha : c ∉ a) (hb : c ∉ b)
    (h : a ++ c :: x = b ++ c :: y) : a = b ∧ x = y := by
  induction a generalizing b with
  | nil =>
    cases b with
    | nil => exact ⟨rfl, (List.cons.inj h).2⟩
    | cons d b => exact absurd (List.cons.inj h).1 fun hcd => hb (hcd ▸ List.mem_cons_self)
  | cons d a ih =>
    cases b with
    | nil => exact absurd (List.cons.inj h).1 fun hdc => ha (hdc ▸ List.mem_cons_self)
    | cons d' b =>
      obtain ⟨rfl, htail⟩ := List.cons.inj h
      obtain ⟨rfl, hxy⟩ := ih (fun hc => ha (.tail _ hc)) (fun hc => hb (.tail _ hc)) htail
      exact ⟨rfl, hxy⟩

/-- The parts that splitting returns do not contain the separator. -/
theorem notMem_of_mem_splitOn {l f : List α} (h : f ∈ l.splitOn c) : c ∉ f := by
  induction l generalizing f with
  | nil =>
    rw [List.splitOn_nil, List.mem_singleton] at h
    simp [h]
  | cons a l ih =>
    rw [List.splitOn_cons_eq_if_modifyHead] at h
    split at h
    · rcases List.mem_cons.1 h with rfl | h
      · simp
      · exact ih h
    · next hne =>
      cases hparts : l.splitOn c with
      | nil => exact absurd hparts (List.splitOn_ne_nil c l)
      | cons g gs =>
        rw [hparts, List.modifyHead_cons, List.mem_cons] at h
        rw [hparts] at ih
        rcases h with rfl | h
        · rw [List.mem_cons, not_or]
          exact ⟨fun hca => hne (beq_iff_eq.2 hca.symm), ih List.mem_cons_self⟩
        · exact ih (List.mem_cons_of_mem g h)

end Separated

/-! ## Digits -/

theorem forall_mem_hexEncode {p : Char → Prop} (hdigit : ∀ n < 16, p (hexDigit n)) (bs : Bytes) :
    ∀ c ∈ (hexEncode bs).toList, p c := by
  intro c hc
  rw [hexEncode, String.toList_ofList, List.mem_flatMap] at hc
  obtain ⟨b, -, hb⟩ := hc
  have hlt : b.toNat < 256 := b.toNat_lt
  rcases List.mem_pair.1 hb with rfl | rfl
  · exact hdigit _ (by omega)
  · exact hdigit _ (by omega)

variable {c : Char}

theorem notMem_hexEncode (hdigit : ∀ n < 16, hexDigit n ≠ c) (bs : Bytes) :
    c ∉ (hexEncode bs).toList :=
  fun h => forall_mem_hexEncode (p := (· ≠ c)) hdigit bs c h rfl

theorem utf8Size_hexDigit : ∀ n < 16, (hexDigit n).utf8Size = 1 := by decide

theorem utf8ByteSize_hexEncode (bs : Bytes) : (hexEncode bs).utf8ByteSize = 2 * bs.length := by
  induction bs with
  | nil => rfl
  | cons b bs ih =>
    have hlt : b.toNat < 256 := b.toNat_lt
    have hcons : hexEncode (b :: bs) = String.singleton (hexDigit (b.toNat / 16)) ++
        (String.singleton (hexDigit (b.toNat % 16)) ++ hexEncode bs) := by
      simp [hexEncode]
    have hhigh := utf8Size_hexDigit (b.toNat / 16) (by omega)
    have hlow := utf8Size_hexDigit (b.toNat % 16) (by omega)
    simp only [hcons, String.utf8ByteSize_append, String.utf8ByteSize_singleton, hhigh, hlow, ih,
      List.length_cons]
    omega

theorem notMem_toString_int (hdigit : c.isDigit = false) (hminus : c ≠ '-') (i : ℤ) :
    c ∉ (toString i).toList := by
  have hnat : ∀ n : ℕ, c ∉ (Nat.repr n).toList := by
    intro n h
    rw [Nat.repr, String.toList_ofList] at h
    rw [Nat.isDigit_of_mem_toDigits (by decide) (by decide) h] at hdigit
    cases hdigit
  cases i with
  | ofNat n => exact hnat n
  | negSucc n =>
    intro h
    have happ : toString (Int.negSucc n) = "-" ++ Nat.repr (n + 1) := rfl
    rw [happ, String.toList_append, List.mem_append] at h
    rcases h with h | h
    · exact hminus (List.mem_singleton.1 h)
    · exact hnat _ h

/-! ## Codes that end by themselves -/

/-- A code whose words can be split off whatever follows them. -/
def SelfDelimiting {α β : Type} (code : α → List β) : Prop :=
  ∀ ⦃a b : α⦄ ⦃x y : List β⦄, code a ++ x = code b ++ y → a = b ∧ x = y

variable {α β : Type} {x y : List β} {sep stop : β} {as bs : List α} {code : α → List β}

/-- Words between separators can be read back up to a stop that starts none of them, when each
word can be split off what ends it. -/
theorem intercalate_inj_of_reads {ends : List β → Prop} (hsep : ∀ l, ends (sep :: l))
    (hends : ∀ l, ends (stop :: l)) (hstop : sep ≠ stop)
    (hhead : ∀ a, ∃ b l, code a = b :: l ∧ b ≠ stop)
    (hread : ∀ a ∈ as, ∀ b x y, ends x → ends y → code a ++ x = code b ++ y → a = b ∧ x = y)
    (h : [sep].intercalate (as.map code) ++ stop :: x =
      [sep].intercalate (bs.map code) ++ stop :: y) : as = bs ∧ x = y := by
  have hstart : ∀ (a : α) (as : List α) (x y : List β),
      stop :: x ≠ [sep].intercalate ((a :: as).map code) ++ y := by
    intro a as x y h
    obtain ⟨b, l, ha, hb⟩ := hhead a
    cases as with
    | nil =>
      simp only [List.map_cons, List.map_nil, List.intercalate_singleton, ha, List.cons_append,
        List.cons.injEq] at h
      exact hb h.1.symm
    | cons a' as =>
      simp only [List.map_cons, List.intercalate_cons_cons, ha, List.cons_append,
        List.cons.injEq] at h
      exact hb h.1.symm
  induction as generalizing bs with
  | nil =>
    cases bs with
    | nil => exact ⟨rfl, (List.cons.inj h).2⟩
    | cons b bs => exact absurd h (hstart b bs x _)
  | cons a as ih =>
    have ha := hread a List.mem_cons_self
    cases bs with
    | nil => exact absurd h.symm (hstart a as y _)
    | cons b bs =>
      cases as with
      | nil =>
        cases bs with
        | nil =>
          simp only [List.map_cons, List.map_nil, List.intercalate_singleton] at h
          obtain ⟨rfl, hrest⟩ := ha _ _ _ (hends _) (hends _) h
          exact ⟨rfl, (List.cons.inj hrest).2⟩
        | cons b' bs =>
          simp only [List.map_cons, List.map_nil, List.intercalate_singleton,
            List.intercalate_cons_cons, List.append_assoc] at h
          exact absurd (List.cons.inj (ha _ _ _ (hends _) (hsep _) h).2).1 hstop.symm
      | cons a' as =>
        cases bs with
        | nil =>
          simp only [List.map_cons, List.map_nil, List.intercalate_singleton,
            List.intercalate_cons_cons, List.append_assoc] at h
          exact absurd (List.cons.inj (ha _ _ _ (hsep _) (hends _) h).2).1 hstop
        | cons b' bs =>
          simp only [List.map_cons, List.intercalate_cons_cons, List.append_assoc] at h
          obtain ⟨rfl, hrest⟩ := ha _ _ _ (hsep _) (hsep _) h
          have htails : [sep].intercalate ((a' :: as).map code) ++ stop :: x =
              [sep].intercalate ((b' :: bs).map code) ++ stop :: y := (List.cons.inj hrest).2
          obtain ⟨htail, hxy⟩ := ih (fun a h => hread a (.tail _ h)) htails
          exact ⟨by rw [htail], hxy⟩

theorem SelfDelimiting.intercalate_inj (hcode : SelfDelimiting code) (hstop : sep ≠ stop)
    (hhead : ∀ a, ∃ b l, code a = b :: l ∧ b ≠ stop)
    (h : [sep].intercalate (as.map code) ++ stop :: x =
      [sep].intercalate (bs.map code) ++ stop :: y) : as = bs ∧ x = y := by
  have hread : ∀ a ∈ as, ∀ b x y, True → True → code a ++ x = code b ++ y → a = b ∧ x = y :=
    fun _ _ _ _ _ _ _ h => hcode h
  exact intercalate_inj_of_reads (fun _ => trivial) (fun _ => trivial) hstop hhead hread h

theorem toList_quoted (s : String) :
    (quoted s).toList = '"' :: (s.toList.flatMap escaped ++ ['"']) := by
  simp only [quoted, String.toList_append, String.toList_ofList, List.cons_append, List.nil_append,
    show ("\"" : String).toList = ['"'] from rfl]

/-- The character that is written first, and what follows it. -/
def unescaped : List Char → Option (Char × List Char)
  | [] => none
  | '\\' :: 'u' :: '\x7b' :: cs =>
    some (Char.ofNat
        ((cs.takeWhile (· ≠ '\x7d')).foldl (fun n c => 16 * n + (hexValue c).getD 0) 0),
      (cs.dropWhile (· ≠ '\x7d')).tail)
  | '\\' :: 'n' :: cs => some ('\n', cs)
  | '\\' :: 'r' :: cs => some ('\r', cs)
  | '\\' :: 't' :: cs => some ('\t', cs)
  | '\\' :: '0' :: cs => some ('\x00', cs)
  | '\\' :: c :: cs => some (c, cs)
  | c :: cs => some (c, cs)

theorem unescaped_escaped_append (c : Char) (x : List Char) :
    unescaped (escaped c ++ x) = some (c, x) := by
  unfold escaped
  by_cases hc : byNumber c = true
  · have hdigits : ((List.range 0xa0).all fun n => (Nat.toDigits 16 n).all (· ≠ '\x7d') &&
        (Nat.toDigits 16 n).foldl (fun n c => 16 * n + (hexValue c).getD 0) 0 == n) = true := by
      decide +kernel
    have hlt : c.toNat < 0xa0 := by
      simp only [byNumber, Bool.and_eq_true, Bool.or_eq_true, decide_eq_true_eq] at hc
      omega
    have hn := List.all_eq_true.1 hdigits _ (List.mem_range.2 hlt)
    simp only [Bool.and_eq_true, List.all_eq_true, beq_iff_eq] at hn
    obtain ⟨hstop, hvalue⟩ := hn
    rw [if_pos hc]
    simp only [List.cons_append, List.nil_append, List.append_assoc, unescaped]
    rw [List.takeWhile_append_of_pos (by simpa using hstop),
      List.dropWhile_append_of_pos (by simpa using hstop)]
    simp [hvalue]
  · rw [if_neg hc]
    clear hc
    split_ifs
    all_goals try (subst c; rfl)
    simp only [List.cons_append, List.nil_append]
    unfold unescaped
    split <;> simp_all

theorem escaped_append_inj {d : Char} {x y : List Char}
    (h : escaped c ++ x = escaped d ++ y) : c = d ∧ x = y := by
  have hread := congrArg unescaped h
  rw [unescaped_escaped_append, unescaped_escaped_append] at hread
  exact Prod.mk.inj (Option.some.inj hread)

theorem cons_quote_ne_escaped_append (c : Char) (x y : List Char) : '"' :: x ≠ escaped c ++ y := by
  intro h
  have hread := congrArg unescaped h
  rw [unescaped_escaped_append] at hread
  cases hread
  cases h
theorem quoted_selfDelimiting : SelfDelimiting fun s => (quoted s).toList := by
  intro s s' x y h
  have hbody : ∀ {l l' x y : List Char}, l.flatMap escaped ++ '"' :: x =
      l'.flatMap escaped ++ '"' :: y → l = l' ∧ x = y := by
    intro l
    induction l with
    | nil =>
      intro l' x y h
      cases l' with
      | nil => exact ⟨rfl, (List.cons.inj h).2⟩
      | cons d l' =>
        rw [List.flatMap_cons, List.append_assoc] at h
        exact absurd h (cons_quote_ne_escaped_append d _ _)
    | cons c l ih =>
      intro l' x y h
      cases l' with
      | nil =>
        rw [List.flatMap_cons, List.append_assoc] at h
        exact absurd h.symm (cons_quote_ne_escaped_append c _ _)
      | cons d l' =>
        rw [List.flatMap_cons, List.flatMap_cons, List.append_assoc, List.append_assoc] at h
        obtain ⟨rfl, htail⟩ := escaped_append_inj h
        obtain ⟨rfl, hxy⟩ := ih htail
        exact ⟨rfl, hxy⟩
  simp only [toList_quoted, List.cons_append, List.append_assoc, List.nil_append,
    List.cons.injEq, true_and] at h
  obtain ⟨hs, hxy⟩ := hbody h
  exact ⟨String.toList_inj.1 hs, hxy⟩

/-! ## Bytes of ASCII characters -/

theorem utf8_eq_flatMap (s : String) : utf8 s = s.toList.flatMap String.utf8EncodeChar := by
  have hbytes : s.toByteArray = s.toList.utf8Encode := by
    rw [← String.toByteArray_ofList, String.ofList_toList]
  rw [utf8, String.toUTF8_eq_toByteArray, hbytes]
  simp [List.utf8Encode]

theorem utf8_append (s t : String) : utf8 (s ++ t) = utf8 s ++ utf8 t := by
  simp only [utf8_eq_flatMap, String.toList_append, List.flatMap_append]

variable {b : UInt8}

/-- A byte of ASCII stands for its own character only. -/
theorem toNat_eq_of_mem_utf8EncodeChar (hb : b.toNat < 128)
    (h : b ∈ String.utf8EncodeChar c) : c.toNat = b.toNat := by
  unfold String.utf8EncodeChar at h
  dsimp only at h
  have hval : c.val.toNat = c.toNat := rfl
  split_ifs at h <;> simp only [List.mem_cons, List.not_mem_nil, or_false] at h
  · rw [h, hval]
    simp only [UInt8.toNat_ofNat']
    omega
  -- every byte of a longer encoding is at least 128
  · rcases h with rfl | rfl <;> simp at hb <;> omega
  · rcases h with rfl | rfl | rfl <;> simp at hb <;> omega
  · rcases h with rfl | rfl | rfl | rfl <;> simp at hb <;> omega

theorem ofNat_mem_of_mem_utf8 (hb : b.toNat < 128) (h : b ∈ utf8 s) :
    Char.ofNat b.toNat ∈ s.toList := by
  rw [utf8_eq_flatMap, List.mem_flatMap] at h
  obtain ⟨c, hc, hbc⟩ := h
  rw [← toNat_eq_of_mem_utf8EncodeChar hb hbc, Char.ofNat_toNat]
  exact hc

theorem utf8EncodeChar_of_lt (h : c.toNat < 128) :
    String.utf8EncodeChar c = [UInt8.ofNat c.toNat] := by
  unfold String.utf8EncodeChar
  have hval : c.val.toNat = c.toNat := rfl
  rw [hval]
  simp [show c.toNat ≤ 127 by omega]

/-- The bytes of a character that is not ASCII are not ASCII either. -/
theorem le_of_mem_utf8EncodeChar (h : 128 ≤ c.toNat)
    (hb : b ∈ String.utf8EncodeChar c) : 128 ≤ b.toNat := by
  by_contra hlt
  have heq := toNat_eq_of_mem_utf8EncodeChar (not_le.1 hlt) hb
  omega

theorem fromUtf8_utf8 (s : String) : fromUtf8 (utf8 s) = some s := by
  unfold fromUtf8 String.fromUTF8? utf8
  have hbytes : (⟨s.toUTF8.data.toList.toArray⟩ : ByteArray) = s.toByteArray := rfl
  rw [hbytes, dif_pos s.isValidUTF8]
  rfl

/-! ## Splitting -/

/-- Only the last part of a split text can hold the separator. -/
theorem notMem_of_mem_dropLast_splitnChars {sep : Char} {cs part : List Char}
    (h : part ∈ (splitnChars sep n cs).dropLast) : sep ∉ part := by
  induction n generalizing cs with
  | zero => simp [splitnChars] at h
  | succ n ih =>
    cases n with
    | zero => simp [splitnChars] at h
    | succ n =>
      rw [splitnChars] at h
      split at h
      · simp at h
      · rename_i sep' rest hrest
        by_cases hnil : splitnChars sep (n + 1) rest = []
        · simp [hnil] at h
        · rw [List.dropLast_cons_of_ne_nil hnil, List.mem_cons] at h
          rcases h with rfl | h
          · intro hsep
            simpa using List.mem_takeWhile_imp hsep
          · exact ih h

theorem notMem_of_splitn_three {sep : Char} {a b c : String} (h : splitn 3 sep s = [a, b, c]) :
    sep ∉ a.toList ∧ sep ∉ b.toList := by
  have hchars : splitnChars sep 3 s.toList = [a.toList, b.toList, c.toList] := by
    have hmap := congrArg (List.map String.toList) h
    simpa [splitn, Function.comp_def] using hmap
  have hparts : ∀ part ∈ [a.toList, b.toList], sep ∉ part := by
    intro part hpart
    have hmem : part ∈ (splitnChars sep 3 s.toList).dropLast := by
      rw [hchars]
      exact hpart
    exact notMem_of_mem_dropLast_splitnChars hmem
  exact ⟨hparts _ (by simp), hparts _ (by simp)⟩

/-! ## White space -/

/-- Without white space there is nothing to trim. -/
theorem trim_eq_self (h : ∀ c ∈ s.toList, isWhiteSpace c = false) : trim s = s := by
  have hdrop : ∀ l : List Char, (∀ c ∈ l, isWhiteSpace c = false) →
      l.dropWhile isWhiteSpace = l := by
    intro l hl
    cases l with
    | nil => rfl
    | cons c l => rw [List.dropWhile_cons_of_neg (by simp [hl c])]
  rw [trim, hdrop _ h, hdrop _ fun c hc => h c (List.mem_reverse.1 hc), List.reverse_reverse]
  exact String.ofList_toList

theorem trim_hexEncode (bytes : Bytes) : trim (hexEncode bytes) = hexEncode bytes :=
  trim_eq_self (forall_mem_hexEncode (by decide) bytes)

/-! ## Case and white space -/

/-- The letters `A`–`Z` one by one. -/
theorem forall_upper {P : Char → Prop} (h : ∀ n ∈ List.range' 65 26, P (Char.ofNat n))
    (hc : 'A' ≤ c ∧ c ≤ 'Z') : P c := by
  have hA : 65 ≤ c.toNat := hc.1
  have hZ : c.toNat ≤ 90 := hc.2
  have hmem : c.toNat ∈ List.range' 65 26 := List.mem_range'_1.2 ⟨hA, by omega⟩
  simpa using h _ hmem

theorem isWhiteSpace_asciiLowerChar (c : Char) :
    isWhiteSpace (asciiLowerChar c) = isWhiteSpace c := by
  by_cases hc : 'A' ≤ c ∧ c ≤ 'Z'
  · exact forall_upper (P := fun c => isWhiteSpace (asciiLowerChar c) = isWhiteSpace c)
      (by decide) hc
  · rw [asciiLowerChar, if_neg hc]

theorem asciiLowerChar_asciiLowerChar (c : Char) :
    asciiLowerChar (asciiLowerChar c) = asciiLowerChar c := by
  by_cases hc : 'A' ≤ c ∧ c ≤ 'Z'
  · exact forall_upper (P := fun c => asciiLowerChar (asciiLowerChar c) = asciiLowerChar c)
      (by decide) hc
  · simp [asciiLowerChar, hc]

theorem asciiLower_asciiLower (s : String) : asciiLower (asciiLower s) = asciiLower s := by
  simp [asciiLower, Function.comp_def, asciiLowerChar_asciiLowerChar]

/-- Case does not matter to what is trimmed. -/
theorem trim_asciiLower (s : String) : trim (asciiLower s) = asciiLower (trim s) := by
  have hdrop : ∀ l : List Char, (l.map asciiLowerChar).dropWhile isWhiteSpace =
      (l.dropWhile isWhiteSpace).map asciiLowerChar := by
    intro l
    rw [List.dropWhile_map]
    congr 2
    funext c
    exact isWhiteSpace_asciiLowerChar c
  simp only [trim, asciiLower, String.toList_ofList, hdrop, ← List.map_reverse]

theorem asciiLower_eq_empty : asciiLower s = "" ↔ s = "" := by
  simp [asciiLower, String.ofList_eq_empty_iff]

end SauronID.Text
