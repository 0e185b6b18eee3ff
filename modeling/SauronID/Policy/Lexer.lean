import SauronID.Lib.Encoding
import SauronID.Policy.Expr

/-!
# The lexer of invariant expressions

`lex` goes over the bytes of an invariant and takes each byte for a character of its own. What
it looks for is ASCII, so bytes of other characters only ever end up in string literals or in
an error. `lex_correct` says that the tokens spell the source: each stands at the position of
its first character, takes as much as it can, and only white space is left between them.

The parser of `f64` is a parameter. Cutting a piece of text out of the source panics if the
piece is not valid UTF-8, and so does reading the body of a literal; `Stop` keeps that apart
from the errors that the lexer reports.
-/

namespace SauronID.Dsl

open Text

variable {F : Type}

/-! ## Tokens -/

inductive Token (F : Type) where
  | ident (name : String)
  | num (n : F)
  | str (s : String)
  | lParen
  | rParen
  | lBracket
  | rBracket
  | comma
  | colon
  | op (op : BinOp)
  | isIn
  | and
  | or
  | not
  | true
  | false
  | eof
  deriving DecidableEq, Repr

structure TokenWithPos (F : Type) where
  token : Token F
  pos : ℕ
  deriving DecidableEq, Repr

inductive LexError where
  | unexpectedChar (ch : Char) (pos : ℕ)
  | unterminatedString (pos : ℕ)
  | invalidNumber (src : String) (pos : ℕ)
  deriving DecidableEq, Repr

def LexError.pos : LexError → ℕ
  | unexpectedChar _ pos | unterminatedString pos | invalidNumber _ pos => pos

/-- Why the lexer stops early. -/
inductive Stop where
  | error (e : LexError)
  | panicked
  deriving DecidableEq, Repr

/-! ## Character classes -/

def isAsciiWhitespace (c : Char) : Bool :=
  c == ' ' || c == '\t' || c == '\n' || c == '\x0c' || c == '\r'

def isAsciiDigit (c : Char) : Bool := '0' ≤ c && c ≤ '9'

def isAsciiAlphabetic (c : Char) : Bool := ('a' ≤ c && c ≤ 'z') || ('A' ≤ c && c ≤ 'Z')

/-- What an identifier, or a part of it after a dot, starts with. -/
def startsIdent (c : Char) : Bool := isAsciiAlphabetic c || c == '_'

def isIdentChar (c : Char) : Bool := isAsciiDigit c || startsIdent c

def isNumChar (c : Char) : Bool := isAsciiDigit c || c == '.'

/-! ## The lexer -/

/-- `bytes[i] as char` -/
def asChar (b : UInt8) : Char := Char.ofNat b.toNat

/-- Tokens of one character. -/
def simpleToken : Char → Option (Token F)
  | '(' => some .lParen
  | ')' => some .rParen
  | '[' => some .lBracket
  | ']' => some .rBracket
  | ',' => some .comma
  | ':' => some .colon
  | '+' => some (.op .add)
  | '-' => some (.op .sub)
  | _ => none

/-- Operators of two characters: the second character, the token of both, and the token of the
first alone if it is one. -/
def pairToken : Char → Option (Char × Token F × Option (Token F))
  | '=' => some ('=', .op .eq, none)
  | '!' => some ('=', .op .neq, some .not)
  | '<' => some ('=', .op .lte, some (.op .lt))
  | '>' => some ('=', .op .gte, some (.op .gt))
  | '&' => some ('&', .and, none)
  | '|' => some ('|', .or, none)
  | _ => none

def wordToken : String → Token F
  | "true" => .true
  | "false" => .false
  | "and" => .and
  | "or" => .or
  | "not" => .not
  | "in" => .isIn
  | word => .ident word

/-- How far an identifier goes on: a dot belongs to it if another part follows. -/
def identLength : List Char → ℕ
  | [] => 0
  | c :: cs =>
    if isIdentChar c || (c == '.' && cs.head?.any startsIdent) then identLength cs + 1 else 0

/-- `&input[i..j]`, and `from_utf8(…).expect(…)` -/
def slice (bytes : Bytes) : Except Stop String :=
  match fromUtf8 bytes with
  | some s => .ok s
  | none => .error .panicked

/-- The token that starts with the byte `b` at `pos`, and how many of the `bytes` after it
belong to it. -/
def lexToken (parseF64 : String → Option F) (pos : ℕ) (b : UInt8) (bytes : Bytes) :
    Except Stop (Token F × ℕ) :=
  let c := asChar b
  let ahead := bytes.map asChar
  match simpleToken c with
  | some token => .ok (token, 0)
  | none =>
    match pairToken c with
    | some (second, both, alone) =>
      if ahead.head? = some second then .ok (both, 1)
      else
        match alone with
        | some token => .ok (token, 0)
        | none => .error (.error (.unexpectedChar c pos))
    | none =>
      if c = '\'' then
        let n := (ahead.takeWhile (· != '\'')).length
        if bytes.length ≤ n then .error (.error (.unterminatedString pos))
        else (slice (bytes.take n)).map fun s => (.str s, n + 1)
      else if isAsciiDigit c then do
        let n := (ahead.takeWhile isNumChar).length
        let raw ← slice (b :: bytes.take n)
        match parseF64 raw with
        | some x => return (.num x, n)
        | none => throw (.error (.invalidNumber raw pos))
      else if startsIdent c then do
        let n := identLength ahead
        let word ← slice (b :: bytes.take n)
        return (wordToken word, n)
      else .error (.error (.unexpectedChar c pos))

/-- The loop, with the bytes still to come from `pos` on. -/
def lexFrom (parseF64 : String → Option F) (pos : ℕ) :
    Bytes → Except Stop (List (TokenWithPos F))
  | [] => .ok [⟨.eof, pos⟩]
  | b :: bytes =>
    if isAsciiWhitespace (asChar b) then lexFrom parseF64 (pos + 1) bytes
    else do
      let (token, n) ← lexToken parseF64 pos b bytes
      let tokens ← lexFrom parseF64 (pos + 1 + n) (bytes.drop n)
      return ⟨token, pos⟩ :: tokens
termination_by bytes => bytes.length
decreasing_by
  · simp
  · simp only [List.length_drop, List.length_cons]
    omega

def lex (parseF64 : String → Option F) (input : String) : Except Stop (List (TokenWithPos F)) :=
  lexFrom parseF64 0 (utf8 input)

/-! ## What the tokens spell -/

/-- The characters after the first one of an identifier. -/
def IdentTail : List Char → Prop
  | [] => True
  | c :: cs => (isIdentChar c = true ∨ c = '.' ∧ ∃ d ∈ cs.head?, startsIdent d = true) ∧
      IdentTail cs

/-- Parts that start with a letter or an underscore, with single dots between them. -/
def IsIdent : List Char → Prop
  | [] => False
  | c :: cs => startsIdent c = true ∧ IdentTail cs

/-- The longest identifier at the start of `text ++ rest`. -/
structure MaximalIdent (text rest : List Char) : Prop where
  ident : IsIdent text
  maximal : ∀ more after, rest = more ++ after → more ≠ [] → ¬IsIdent (text ++ more)

/-- The text of a token, with `rest` after it in the source. -/
inductive Spells (parseF64 : String → Option F) : Token F → List Char → List Char → Prop
  | simple {c : Char} {token : Token F} {rest : List Char} (h : simpleToken c = some token) :
      Spells parseF64 token [c] rest
  | pair {c second : Char} {both : Token F} {alone : Option (Token F)} {rest : List Char}
      (h : pairToken c = some (second, both, alone)) : Spells parseF64 both [c, second] rest
  | alone {c second : Char} {both token : Token F} {rest : List Char}
      (h : pairToken c = some (second, both, some token)) (hrest : rest.head? ≠ some second) :
      Spells parseF64 token [c] rest
  | str {body rest : List Char} (h : '\'' ∉ body) :
      Spells parseF64 (.str (String.ofList body)) ('\'' :: (body ++ ['\''])) rest
  | num {c : Char} {cs rest : List Char} {x : F} (hc : isAsciiDigit c = true)
      (hcs : ∀ d ∈ cs, isNumChar d = true) (hrest : ∀ d ∈ rest.head?, isNumChar d = false)
      (hx : parseF64 (String.ofList (c :: cs)) = some x) : Spells parseF64 (.num x) (c :: cs) rest
  | word {text rest : List Char} (h : MaximalIdent text rest) :
      Spells parseF64 (wordToken (String.ofList text)) text rest

/-- The bytes of a text. -/
def encode (cs : List Char) : Bytes := cs.flatMap String.utf8EncodeChar

/-- The source from `pos` on is the texts of the tokens, with white space around them; a token
stands at the position of its first character. -/
inductive Lexed (parseF64 : String → Option F) : ℕ → List Char → List (TokenWithPos F) → Prop
  | eof (pos : ℕ) : Lexed parseF64 pos [] [⟨.eof, pos⟩]
  | space {pos : ℕ} {c : Char} {cs : List Char} {tokens : List (TokenWithPos F)}
      (hc : isAsciiWhitespace c = true) (h : Lexed parseF64 (pos + 1) cs tokens) :
      Lexed parseF64 pos (c :: cs) tokens
  | token {pos : ℕ} {token : Token F} {text rest : List Char} {tokens : List (TokenWithPos F)}
      (htext : Spells parseF64 token text rest)
      (h : Lexed parseF64 (pos + (encode text).length) rest tokens) :
      Lexed parseF64 pos (text ++ rest) (⟨token, pos⟩ :: tokens)

/-! ## Bytes and characters -/

theorem encode_append (cs ds : List Char) : encode (cs ++ ds) = encode cs ++ encode ds :=
  List.flatMap_append

theorem slice_encode (cs : List Char) : slice (encode cs) = .ok (String.ofList cs) := by
  have hutf8 : encode cs = utf8 (String.ofList cs) := by
    rw [utf8_eq_flatMap, String.toList_ofList, encode]
  rw [slice, hutf8, fromUtf8_utf8]

theorem toNat_asChar (b : UInt8) : (asChar b).toNat = b.toNat := by
  have hlt := b.toNat_lt
  have hvalid : b.toNat.isValidChar := .inl (by omega)
  rw [asChar, Char.ofNat, dif_pos hvalid]
  rfl

variable {c : Char}

theorem encode_cons_of_lt (h : c.toNat < 128) (cs : List Char) :
    encode (c :: cs) = UInt8.ofNat c.toNat :: encode cs := by
  rw [encode, List.flatMap_cons, utf8EncodeChar_of_lt h]
  rfl

theorem asChar_ofNat (h : c.toNat < 128) : asChar (UInt8.ofNat c.toNat) = c := by
  rw [asChar, UInt8.toNat_ofNat', Nat.mod_eq_of_lt (by omega), Char.ofNat_toNat]

/-- The source as the lexer reads it, each byte a character. -/
def latin (cs : List Char) : List Char := (encode cs).map asChar

theorem latin_cons_of_lt (h : c.toNat < 128) (cs : List Char) :
    latin (c :: cs) = c :: latin cs := by
  rw [latin, encode_cons_of_lt h, List.map_cons, asChar_ofNat h, latin]

/-- A character that is not ASCII is read as characters that are not ASCII. -/
theorem latin_cons_of_le (h : 128 ≤ c.toNat) (cs : List Char) :
    ∃ d ds, (encode [c]).length = ds.length + 1 ∧ latin (c :: cs) = d :: (ds ++ latin cs) ∧
      ∀ x ∈ d :: ds, 128 ≤ x.toNat := by
  have hwide : ∀ x ∈ latin [c], 128 ≤ x.toNat := by
    intro x hx
    obtain ⟨b, hb, rfl⟩ := List.mem_map.1 hx
    rw [toNat_asChar]
    exact le_of_mem_utf8EncodeChar h (by simpa [encode] using hb)
  have hlatin : latin (c :: cs) = latin [c] ++ latin cs := by
    rw [latin, latin, latin, ← List.map_append, ← encode_append, List.singleton_append]
  have hlength : (encode [c]).length = (latin [c]).length := (List.length_map _).symm
  cases hc : latin [c] with
  | nil => simp [latin, encode] at hc
  | cons d ds =>
    rw [hc] at hlatin hwide hlength
    exact ⟨d, ds, hlength, hlatin, hwide⟩

/-! ### What the lexer looks for is ASCII -/

variable {d : Char}

theorem toNat_le_toNat (h : c ≤ d) : c.toNat ≤ d.toNat := UInt32.le_iff_toNat_le.1 h

theorem ascii_isAsciiDigit (h : isAsciiDigit c = true) : c.toNat < 128 := by
  simp only [isAsciiDigit, Bool.and_eq_true, decide_eq_true_eq] at h
  exact (toNat_le_toNat h.2).trans_lt (by decide)

theorem ascii_startsIdent (h : startsIdent c = true) : c.toNat < 128 := by
  simp only [startsIdent, isAsciiAlphabetic, Bool.or_eq_true, Bool.and_eq_true,
    decide_eq_true_eq, beq_iff_eq] at h
  rcases h with (h | h) | rfl
  · exact (toNat_le_toNat h.2).trans_lt (by decide)
  · exact (toNat_le_toNat h.2).trans_lt (by decide)
  · decide

theorem ascii_isIdentChar (h : isIdentChar c = true) : c.toNat < 128 := by
  rw [isIdentChar, Bool.or_eq_true] at h
  exact h.elim ascii_isAsciiDigit ascii_startsIdent

theorem ascii_isNumChar (h : isNumChar c = true) : c.toNat < 128 := by
  rw [isNumChar, Bool.or_eq_true, beq_iff_eq] at h
  rcases h with h | rfl
  · exact ascii_isAsciiDigit h
  · decide

theorem ascii_isAsciiWhitespace (h : isAsciiWhitespace c = true) : c.toNat < 128 := by
  simp only [isAsciiWhitespace, Bool.or_eq_true, beq_iff_eq] at h
  rcases h with (((rfl | rfl) | rfl) | rfl) | rfl <;> decide

theorem ascii_simpleToken {token : Token F} (h : simpleToken c = some token) : c.toNat < 128 := by
  unfold simpleToken at h
  split at h <;> first | decide | cases h

theorem ascii_pairToken {second : Char} {both : Token F} {alone : Option (Token F)}
    (h : pairToken c = some (second, both, alone)) : c.toNat < 128 ∧ second.toNat < 128 := by
  unfold pairToken at h
  split at h <;> cases h <;> decide

variable {p : Char → Bool}

theorem eq_false_of_ascii (hp : ∀ {c}, p c = true → c.toNat < 128)
    (hc : 128 ≤ c.toNat) : p c = false :=
  Bool.eq_false_iff.2 fun h => absurd (hp h) (not_lt.2 hc)

/-- What is looked for in the next character is looked for in the next byte. -/
theorem head?_latin (hp : ∀ {c}, p c = true → c.toNat < 128) (cs : List Char) :
    (latin cs).head?.any p = cs.head?.any p := by
  cases cs with
  | nil => rfl
  | cons c cs =>
    by_cases hc : c.toNat < 128
    · rw [latin_cons_of_lt hc]
      rfl
    · obtain ⟨d, ds, -, hlatin, hwide⟩ := latin_cons_of_le (not_lt.1 hc) cs
      rw [hlatin]
      simp [eq_false_of_ascii hp (not_lt.1 hc), eq_false_of_ascii hp (hwide d (.head _))]

/-! ### Runs of characters -/

/-- A run of characters is a run of bytes, if what is not ASCII is either all in or all out. -/
theorem takeWhile_latin (hp : ∀ {c d}, 128 ≤ c.toNat → 128 ≤ d.toNat → p c = p d) (cs : List Char) :
    ((latin cs).takeWhile p).length = (encode (cs.takeWhile p)).length := by
  induction cs with
  | nil => rfl
  | cons c cs ih =>
    by_cases hc : c.toNat < 128
    · rw [latin_cons_of_lt hc]
      by_cases h : p c = true
      · simp [h, encode_cons_of_lt hc, ih]
      · simp [h, encode]
    · obtain ⟨d, ds, hlength, hlatin, hwide⟩ := latin_cons_of_le (not_lt.1 hc) cs
      have hsame (x) (hx : x ∈ d :: ds) : p x = p c := hp (hwide x hx) (not_lt.1 hc)
      rw [hlatin, ← List.cons_append]
      by_cases h : p c = true
      · have hsplit : encode (c :: cs.takeWhile p) = encode [c] ++ encode (cs.takeWhile p) :=
          encode_append [c] _
        rw [List.takeWhile_append_of_pos fun x hx => (hsame x hx).trans h, List.takeWhile_cons,
          if_pos h, hsplit, List.length_append, List.length_append, hlength, ih,
          List.length_cons]
      · simp [h, hsame d (.head _), encode]

/-- The identifier goes on as far in the bytes as it does in the characters. -/
theorem identLength_latin (cs : List Char) : identLength (latin cs) = identLength cs ∧
      identLength cs = (encode (cs.take (identLength cs))).length := by
  induction cs with
  | nil => exact ⟨rfl, rfl⟩
  | cons c cs ih =>
    by_cases hc : c.toNat < 128
    · rw [latin_cons_of_lt hc, identLength, identLength, head?_latin ascii_startsIdent]
      split
      · rw [ih.1, List.take_succ_cons, encode_cons_of_lt hc, List.length_cons, ← ih.2]
        exact ⟨rfl, rfl⟩
      · exact ⟨rfl, rfl⟩
    · obtain ⟨d, ds, -, hlatin, hwide⟩ := latin_cons_of_le (not_lt.1 hc) cs
      have hstop {x : Char} (hx : 128 ≤ x.toNat) (xs : List Char) :
          identLength (x :: xs) = 0 := by
        have hdot : x ≠ '.' := by
          rintro rfl
          exact absurd hx (by decide)
        simp [identLength, eq_false_of_ascii ascii_isIdentChar hx, hdot]
      rw [hlatin, hstop (hwide d (.head _)), hstop (not_lt.1 hc)]
      exact ⟨rfl, rfl⟩

/-- The identifier that is cut off ends where no longer one goes on. -/
theorem identTail_take (cs : List Char) : IdentTail (cs.take (identLength cs)) ∧
    ∀ d ds, cs.drop (identLength cs) = d :: ds →
      ¬(isIdentChar d = true ∨ d = '.' ∧ ∃ x ∈ ds.head?, startsIdent x = true) := by
  induction cs with
  | nil => exact ⟨trivial, by simp⟩
  | cons c cs ih =>
    have hcond : (isIdentChar c || (c == '.' && cs.head?.any startsIdent)) = true ↔
        isIdentChar c = true ∨ c = '.' ∧ ∃ x ∈ cs.head?, startsIdent x = true := by
      simp [Option.any_eq_true]
    rw [identLength]
    split
    · next h =>
      refine ⟨⟨(hcond.1 h).imp_right ?_, ih.1⟩, ih.2⟩
      rintro ⟨rfl, x, hx, hstart⟩
      -- the part after the dot belongs to the identifier, so it is cut off with it
      cases cs with
      | nil => cases hx
      | cons d ds =>
        obtain rfl : d = x := by simpa using hx
        refine ⟨rfl, d, ?_, hstart⟩
        simp [identLength, isIdentChar, hstart]
    · next h =>
      refine ⟨trivial, ?_⟩
      rintro d ds hds
      obtain ⟨rfl, rfl⟩ := List.cons.inj hds
      exact fun hgo => h (hcond.2 hgo)

variable {cs : List Char}

theorem IdentTail.next {more : List Char} (h : IdentTail (cs ++ d :: more)) :
    isIdentChar d = true ∨ d = '.' ∧ ∃ x ∈ more.head?, startsIdent x = true := by
  induction cs with
  | nil => exact h.1
  | cons c cs ih => exact ih h.2

theorem maximalIdent_take (hc : startsIdent c = true) (cs : List Char) :
    MaximalIdent (c :: cs.take (identLength cs)) (cs.drop (identLength cs)) where
  ident := ⟨hc, (identTail_take cs).1⟩
  maximal := by
    rintro more after hrest hmore ⟨-, htail⟩
    cases more with
    | nil => exact hmore rfl
    | cons d ds =>
      refine (identTail_take cs).2 d (ds ++ after) hrest (htail.next.imp_right ?_)
      rintro ⟨hdot, x, hx, hstart⟩
      refine ⟨hdot, x, ?_, hstart⟩
      rw [List.head?_append, Option.mem_def.1 hx]
      rfl

/-! ## The lexer spells -/

/-- The outcome of looking for one token in `cs`: an error at its position, or a token with its
text. -/
def Found (parseF64 : String → Option F) (pos : ℕ) (cs : List Char) (bytes : Bytes)
    (r : Except Stop (Token F × ℕ)) : Prop :=
  (∃ e, r = .error (.error e) ∧ e.pos = pos) ∨
    ∃ token n text rest, r = .ok (token, n) ∧ cs = text ++ rest ∧ Spells parseF64 token text rest ∧
      (encode text).length = n + 1 ∧ bytes.drop n = encode rest

section Found

variable {parseF64 : String → Option F} {pos : ℕ} {c : Char} {cs : List Char}
  {text rest : List Char}

/-- A token of the first character and `text` after it. -/
theorem Found.ok (hc : c.toNat < 128) {token : Token F}
    (h : Spells parseF64 token (c :: text) rest) (hcs : cs = text ++ rest) :
    Found parseF64 pos (c :: cs) (encode cs) (.ok (token, (encode text).length)) := by
  subst hcs
  refine .inr ⟨token, _, c :: text, rest, rfl, rfl, h, ?_, ?_⟩
  · rw [encode_cons_of_lt hc, List.length_cons]
  · rw [encode_append, List.drop_left]

/-- What is cut out of the source. -/
theorem slice_take (hc : c.toNat < 128) (hcs : cs = text ++ rest) :
    slice (UInt8.ofNat c.toNat :: (encode cs).take (encode text).length) =
      .ok (String.ofList (c :: text)) := by
  rw [hcs, encode_append, List.take_left, ← encode_cons_of_lt hc, slice_encode]

theorem found_pair (hc : c.toNat < 128) {second : Char} {both : Token F}
    {alone : Option (Token F)} : pairToken c = some (second, both, alone) →
    Found parseF64 pos (c :: cs) (encode cs)
      (if (latin cs).head? = some second then .ok (both, 1)
      else match alone with
        | some token => .ok (token, 0)
        | none => .error (.error (.unexpectedChar c pos))) := by
  intro h
  have hsecond := (ascii_pairToken h).2
  have hhead : (latin cs).head? = some second ↔ cs.head? = some second := by
    have hany := head?_latin (p := (· == second)) (fun hx => (beq_iff_eq.1 hx) ▸ hsecond) cs
    have hsome (o : Option Char) : o.any (· == second) = true ↔ o = some second := by
      cases o <;> simp
    rw [← hsome, ← hsome, hany]
  split
  · next hnext =>
    obtain ⟨rest, rfl⟩ := List.head?_eq_some_iff.1 (hhead.1 hnext)
    have hlength : (encode [second]).length = 1 := by
      rw [encode_cons_of_lt hsecond]
      rfl
    have hspells : Spells parseF64 both (c :: [second]) rest := .pair h
    exact hlength ▸ Found.ok hc hspells rfl
  · next hnext =>
    cases alone with
    | none => exact .inl ⟨_, rfl, rfl⟩
    | some token =>
      have hspells : Spells parseF64 token (c :: []) cs := .alone h fun hh => hnext (hhead.2 hh)
      exact Found.ok hc hspells rfl

theorem found_str (hc : c.toNat < 128) (hquote : c = '\'') :
    Found parseF64 pos (c :: cs) (encode cs)
      (if (encode cs).length ≤ ((latin cs).takeWhile (· != '\'')).length then
        .error (.error (.unterminatedString pos))
      else (slice ((encode cs).take ((latin cs).takeWhile (· != '\'')).length)).map fun s =>
        (.str s, ((latin cs).takeWhile (· != '\'')).length + 1)) := by
  have hwide {d : Char} (hd : 128 ≤ d.toNat) : (d != '\'') = true := by
    rw [bne_iff_ne]
    rintro rfl
    exact absurd hd (by decide)
  rw [takeWhile_latin (p := (· != '\'')) fun hx hy => (hwide hx).trans (hwide hy).symm]
  have hcs := (List.takeWhile_append_dropWhile (p := (· != '\'')) (l := cs)).symm
  have hbody : '\'' ∉ cs.takeWhile (· != '\'') := fun h => by simpa using List.mem_takeWhile_imp h
  split
  · exact .inl ⟨_, rfl, rfl⟩
  · next hlength =>
    cases hrest : cs.dropWhile (· != '\'') with
    | nil =>
      rw [hrest, List.append_nil] at hcs
      exact absurd (hcs ▸ le_rfl) hlength
    | cons d rest =>
      obtain rfl : d = '\'' := by
        have hd := List.head?_dropWhile_not (· != '\'') cs
        simpa [hrest] using hd
      rw [hrest] at hcs
      have hspells : Spells parseF64 (.str (String.ofList (cs.takeWhile (· != '\''))))
          (c :: (cs.takeWhile (· != '\'') ++ ['\''])) rest := by
        rw [hquote]
        exact .str hbody
      have hsplit : cs = cs.takeWhile (· != '\'') ++ ['\''] ++ rest := by
        rw [List.append_assoc]
        exact hcs
      have hslice : slice ((encode cs).take (encode (cs.takeWhile (· != '\''))).length) =
          .ok (String.ofList (cs.takeWhile (· != '\''))) := by
        rw [congrArg encode hcs, encode_append, List.take_left, slice_encode]
      have hlength : (encode (cs.takeWhile (· != '\'') ++ ['\''])).length =
          (encode (cs.takeWhile (· != '\''))).length + 1 := by
        rw [encode_append, List.length_append]
        rfl
      rw [hslice]
      exact hlength ▸ Found.ok hc hspells hsplit

theorem found_num (hc : isAsciiDigit c = true) : Found parseF64 pos (c :: cs) (encode cs)
      (slice (UInt8.ofNat c.toNat :: (encode cs).take ((latin cs).takeWhile isNumChar).length) >>=
        fun raw => match parseF64 raw with
          | some x => return (.num x, ((latin cs).takeWhile isNumChar).length)
          | none => throw (.error (.invalidNumber raw pos))) := by
  have hcs := (List.takeWhile_append_dropWhile (p := isNumChar) (l := cs)).symm
  have hwide {d : Char} (hd : 128 ≤ d.toNat) := eq_false_of_ascii ascii_isNumChar hd
  rw [takeWhile_latin fun hx hy => (hwide hx).trans (hwide hy).symm,
    slice_take (ascii_isAsciiDigit hc) hcs]
  change Found parseF64 pos (c :: cs) (encode cs) (match parseF64 _ with | some _ => _ | none => _)
  split
  · next x hx =>
    refine Found.ok (ascii_isAsciiDigit hc) (.num hc ?_ ?_ hx) hcs
    · exact fun d hd => List.mem_takeWhile_imp hd
    · intro d hd
      have hhead := List.head?_dropWhile_not isNumChar cs
      rw [Option.mem_def.1 hd] at hhead
      exact hhead
  · exact .inl ⟨_, rfl, rfl⟩

theorem found_word (hc : startsIdent c = true) : Found parseF64 pos (c :: cs) (encode cs)
      (slice (UInt8.ofNat c.toNat :: (encode cs).take (identLength (latin cs))) >>=
        fun word => return (wordToken word, identLength (latin cs))) := by
  have hcs := (List.take_append_drop (identLength cs) cs).symm
  obtain ⟨hlatin, hlength⟩ := identLength_latin cs
  have hslice : slice (UInt8.ofNat c.toNat :: (encode cs).take (identLength cs)) =
      .ok (String.ofList (c :: cs.take (identLength cs))) := by
    conv => lhs; rw [hlength]
    exact slice_take (ascii_startsIdent hc) hcs
  have hfound : Found parseF64 pos (c :: cs) (encode cs) (.ok (_, _)) :=
    Found.ok (ascii_startsIdent hc) (.word (maximalIdent_take hc cs)) hcs
  rw [← hlength] at hfound
  rw [hlatin, hslice]
  exact hfound

theorem lexToken_spec (hc : c.toNat < 128) : Found parseF64 pos (c :: cs) (encode cs)
      (lexToken parseF64 pos (UInt8.ofNat c.toNat) (encode cs)) := by
  unfold lexToken
  simp only [asChar_ofNat hc]
  split
  · next token h =>
    have hspells : Spells parseF64 token (c :: []) cs := .simple h
    exact Found.ok hc hspells rfl
  · split
    · next second both alone h => exact found_pair hc h
    · split
      · next hquote => exact found_str hc hquote
      · split
        · next hdigit => exact found_num hdigit
        · split
          · next hstart => exact found_word hstart
          · exact .inl ⟨_, rfl, rfl⟩

end Found

variable {parseF64 : String → Option F} {pos : ℕ}

/-- A byte that is not ASCII starts no token. -/
theorem lexToken_wide {b : UInt8} (hb : 128 ≤ b.toNat) (bytes : Bytes) :
    lexToken parseF64 pos b bytes = .error (.error (.unexpectedChar (asChar b) pos)) := by
  have hc : 128 ≤ (asChar b).toNat := toNat_asChar b ▸ hb
  have hsimple : simpleToken (F := F) (asChar b) = none :=
    Option.eq_none_iff_forall_ne_some.2 fun token h => absurd (ascii_simpleToken h) (not_lt.2 hc)
  have hpair : pairToken (F := F) (asChar b) = none :=
    Option.eq_none_iff_forall_ne_some.2 fun p h => absurd (ascii_pairToken h).1 (not_lt.2 hc)
  have hquote : asChar b ≠ '\'' := by
    intro h
    rw [h] at hc
    exact absurd hc (by decide)
  simp [lexToken, hsimple, hpair, hquote, eq_false_of_ascii ascii_isAsciiDigit hc,
    eq_false_of_ascii ascii_startsIdent hc]

/-- What comes of the source from `pos` on: an error at one of its characters, or the tokens that
spell it. -/
def Outcome (parseF64 : String → Option F) (pos : ℕ) (cs : List Char)
    (r : Except Stop (List (TokenWithPos F))) : Prop :=
  (∃ e before c after, r = .error (.error e) ∧ cs = before ++ c :: after ∧
    e.pos = pos + (encode before).length) ∨
  ∃ tokens, r = .ok tokens ∧ Lexed parseF64 pos cs tokens

section Outcome

variable {parseF64 : String → Option F} {pos : ℕ} {c : Char} {cs : List Char}
  {r : Except Stop (List (TokenWithPos F))}

theorem Outcome.space (hc : isAsciiWhitespace c = true)
    (h : Outcome parseF64 (pos + 1) cs r) : Outcome parseF64 pos (c :: cs) r := by
  obtain ⟨e, before, d, after, hr, hcs, he⟩ | ⟨tokens, hr, htokens⟩ := h
  · refine .inl ⟨e, c :: before, d, after, hr, by rw [hcs, List.cons_append], ?_⟩
    rw [he, encode_cons_of_lt (ascii_isAsciiWhitespace hc), List.length_cons]
    omega
  · exact .inr ⟨tokens, hr, .space hc htokens⟩

theorem Outcome.token {token : Token F} {text rest : List Char}
    (htext : Spells parseF64 token text rest)
    (h : Outcome parseF64 (pos + (encode text).length) rest r) :
    Outcome parseF64 pos (text ++ rest) (r.map fun tokens => ⟨token, pos⟩ :: tokens) := by
  obtain ⟨e, before, d, after, rfl, rfl, he⟩ | ⟨tokens, rfl, htokens⟩ := h
  · refine .inl ⟨e, text ++ before, d, after, rfl, (List.append_assoc ..).symm, ?_⟩
    rw [he, encode_append, List.length_append]
    omega
  · exact .inr ⟨_, rfl, .token htext htokens⟩

/-- A step of the loop at a token. -/
theorem lexFrom_token {b : UInt8} {bytes : Bytes} (hb : isAsciiWhitespace (asChar b) = false) :
    lexFrom parseF64 pos (b :: bytes) = lexToken parseF64 pos b bytes >>= fun p =>
        (lexFrom parseF64 (pos + 1 + p.2) (bytes.drop p.2)).map fun tokens =>
          ⟨p.1, pos⟩ :: tokens := by
  rw [lexFrom, hb]
  rfl

end Outcome

theorem lexFrom_spec (parseF64 : String → Option F) (pos : ℕ) (cs : List Char) :
    Outcome parseF64 pos cs (lexFrom parseF64 pos (encode cs)) := by
  -- on the number of characters, since a token takes several of them at once
  induction hn : cs.length using Nat.strong_induction_on generalizing pos cs with
  | _ n ih =>
    cases cs with
    | nil => exact .inr ⟨_, by rw [encode, List.flatMap_nil, lexFrom], .eof pos⟩
    | cons c cs =>
      have hat (e : LexError) (he : e.pos = pos) :
          Outcome parseF64 pos (c :: cs) (.error (.error e)) :=
        .inl ⟨e, [], c, cs, rfl, rfl, he⟩
      by_cases hc : c.toNat < 128
      · rw [encode_cons_of_lt hc]
        by_cases hspace : isAsciiWhitespace c = true
        · rw [lexFrom, asChar_ofNat hc, if_pos hspace]
          exact .space hspace (ih cs.length (by simp [← hn]) _ cs rfl)
        · rw [lexFrom_token (by rwa [asChar_ofNat hc, ← Bool.not_eq_true])]
          obtain ⟨e, hr, he⟩ | ⟨token, k, text, rest, hr, hcs, htext, hk, hdrop⟩ :=
            (lexToken_spec hc : Found parseF64 pos (c :: cs) (encode cs) _)
          · rw [hr]
            exact hat e he
          · have hshort : rest.length < n := by
              cases text with
              | nil => simp [encode] at hk
              | cons d text =>
                rw [← hn, hcs, List.length_append, List.length_cons]
                omega
            rw [hr, hcs]
            change Outcome parseF64 pos _ ((lexFrom parseF64 (pos + 1 + k) _).map _)
            rw [hdrop, show pos + 1 + k = pos + (encode text).length by omega]
            exact .token htext (ih _ hshort _ rest rfl)
      · cases hbytes : String.utf8EncodeChar c with
        | nil => simp at hbytes
        | cons b bytes =>
          have hb : 128 ≤ b.toNat :=
            le_of_mem_utf8EncodeChar (not_lt.1 hc) (hbytes ▸ List.mem_cons_self)
          rw [encode, List.flatMap_cons, hbytes, List.cons_append, lexFrom_token
            (eq_false_of_ascii ascii_isAsciiWhitespace (toNat_asChar b ▸ hb)), lexToken_wide hb]
          exact hat _ rfl

/-- The last token is the end of the source. -/
theorem Lexed.getLast {tokens : List (TokenWithPos F)} (h : Lexed parseF64 pos cs tokens) :
    tokens.getLast? = some ⟨.eof, pos + (encode cs).length⟩ := by
  induction h with
  | eof pos => rfl
  | space hc _ ih =>
    rw [ih, encode_cons_of_lt (ascii_isAsciiWhitespace hc), List.length_cons]
    congr 2
    omega
  | token htext h ih =>
    rw [List.getLast?_cons, ih, encode_append, List.length_append]
    simp only [Option.getD_some, Option.some.injEq, TokenWithPos.mk.injEq, true_and]
    omega

/-- **The lexer is right.** On every source it reports an error at one of the characters, or
returns tokens that spell the source and end in `Eof`; it does not panic. -/
theorem lex_correct (parseF64 : String → Option F) (input : String) :
    (∃ e before c after, lex parseF64 input = .error (.error e) ∧
      input.toList = before ++ c :: after ∧ e.pos = (utf8 (String.ofList before)).length) ∨
    ∃ tokens, lex parseF64 input = .ok tokens ∧
      tokens.getLast? = some ⟨.eof, (utf8 input).length⟩ ∧
      Lexed parseF64 0 input.toList tokens := by
  have hinput : utf8 input = encode input.toList := utf8_eq_flatMap input
  rw [lex, hinput]
  obtain ⟨e, before, c, after, hr, hcs, he⟩ | ⟨tokens, hr, htokens⟩ :=
    lexFrom_spec parseF64 0 input.toList
  · refine .inl ⟨e, before, c, after, hr, hcs, ?_⟩
    rw [he, utf8_eq_flatMap, String.toList_ofList, encode, Nat.zero_add]
  · refine .inr ⟨tokens, hr, ?_, htokens⟩
    rw [htokens.getLast, Nat.zero_add]

end SauronID.Dsl
