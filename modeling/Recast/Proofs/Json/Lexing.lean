import Mathlib.Data.List.TakeWhile
import Recast.Json.Printer
import Recast.Json.Token

/-!
# The tokens of a printed value

A value that is written over several lines is read back token by token. The lexer is a fold, so a
text is followed piece by piece: a piece either leaves no token open (`Lexer.Settles`) or leaves a
literal or a numeral that is complete and ends with the next delimiter (`Lexer.Writes`).
Punctuation, blanks and quoted texts are of the first sort, every escape giving back the character
that it stands for (`Lexer.run_escapeChar`); the words and the integers are of the second
(`Number.ofChars?_toString`).

The layout only puts delimiters between the pieces, and so a value writes the same tokens at every
level (`Lexer.writes_prettyAt`).
-/

namespace Recast

/-! ### Integers -/

theorem natOfDigits_toDigits (n : Nat) : natOfDigits (Nat.toDigits 10 n) = n := by
  rw [natOfDigits, ← Nat.ofDigitChars_eq_foldl, Nat.ofDigitChars_ten_toDigits]

theorem isDigit_of_mem_toDigits {n : Nat} {c : Char} (h : c ∈ Nat.toDigits 10 n) :
    c.isDigit = true :=
  Nat.isDigit_of_mem_toDigits (by decide) (by decide) h

/-- Only zero is written with a leading zero. -/
theorem eq_zero_of_toDigits_eq_cons {n : Nat} {rest : List Char}
    (h : Nat.toDigits 10 n = '0' :: rest) : n = 0 := by
  induction n using Nat.strongRecOn generalizing rest with
  | ind n ih =>
    rcases Nat.lt_or_ge n 10 with hn | hn
    · rw [Nat.toDigits_of_lt_base hn, List.cons.injEq] at h
      exact Nat.digitChar_eq_zero.1 h.1
    · rw [Nat.toDigits_of_base_le (by decide) hn] at h
      rcases List.append_eq_cons_iff.1 h with ⟨hnil, -⟩ | ⟨front, hfront, -⟩
      · exact absurd hnil Nat.toDigits_ne_nil
      · have := ih (n / 10) (by omega) hfront
        omega

namespace Numeral

/-- The digits of a natural number are the integer of a numeral. -/
theorem unsigned?_toDigits (negative : Bool) (n : Nat) :
    unsigned? negative (Nat.toDigits 10 n) = some ⟨negative, Nat.toDigits 10 n, none, none⟩ := by
  have hall : ∀ c ∈ Nat.toDigits 10 n, c.isDigit = true := fun c ↦ isDigit_of_mem_toDigits
  have htake : (Nat.toDigits 10 n).takeWhile Char.isDigit = Nat.toDigits 10 n :=
    List.takeWhile_eq_self_iff.2 hall
  have hdrop : (Nat.toDigits 10 n).dropWhile Char.isDigit = [] := List.dropWhile_eq_nil_iff.2 hall
  simp only [unsigned?, htake, hdrop]
  split
  · next h => exact absurd h Nat.toDigits_ne_nil
  · next h =>
    obtain rfl := eq_zero_of_toDigits_eq_cons h
    rw [Nat.toDigits_zero] at h
    cases h
  · rfl

theorem ofChars?_toDigits (n : Nat) :
    ofChars? (Nat.toDigits 10 n) = some ⟨false, Nat.toDigits 10 n, none, none⟩ := by
  unfold ofChars?
  split
  · next h => exact absurd (isDigit_of_mem_toDigits (h ▸ List.mem_cons_self)) (by decide)
  · exact unsigned?_toDigits false n

end Numeral

theorem toList_toString_ofNat (n : Nat) : (toString (Int.ofNat n)).toList = Nat.toDigits 10 n :=
  String.toList_ofList

theorem toList_toString_negSucc (n : Nat) :
    (toString (Int.negSucc n)).toList = '-' :: Nat.toDigits 10 (n + 1) := by
  rw [show toString (Int.negSucc n) = "-" ++ (n + 1).repr from rfl, String.toList_append]
  exact congrArg _ String.toList_ofList

/-- **An integer of sixty-four bits is read back from its digits.** -/
theorem Number.ofChars?_toString {n : Int} (hmin : -0x8000000000000000 ≤ n)
    (hmax : n < 0x10000000000000000) : Number.ofChars? (toString n).toList = some (.int n) := by
  cases n with
  | ofNat m =>
    have hfits : fitsNat64 m = true := by
      rw [Int.ofNat_eq_natCast] at hmax
      rw [fitsNat64_iff]
      omega
    have hvalue : Numeral.toInt? ⟨false, Nat.toDigits 10 m, none, none⟩ = some (Int.ofNat m) := by
      simp only [Numeral.toInt?, natOfDigits_toDigits, hfits]
      rfl
    rw [Number.ofChars?, toList_toString_ofNat, Numeral.ofChars?_toDigits, Option.bind_some,
      Numeral.value?, hvalue]
  | negSucc m =>
    have hneg : -((m + 1 : Nat) : Int) = Int.negSucc m := rfl
    have hfits : fitsInt64 (Int.negSucc m) = true :=
      fitsInt64_iff.2 ⟨hmin, Int.lt_trans (Int.negSucc_lt_zero m) (by decide)⟩
    have hvalue : Numeral.toInt? ⟨true, Nat.toDigits 10 (m + 1), none, none⟩ =
        some (Int.negSucc m) := by
      simp only [Numeral.toInt?, natOfDigits_toDigits, hneg, hfits]
      rfl
    rw [Number.ofChars?, toList_toString_negSucc, Numeral.ofChars?, Numeral.unsigned?_toDigits,
      Option.bind_some, Numeral.value?, hvalue]

namespace Lexer

/-! ### Pieces of a text -/

/-- Read where no token is open, the text is these tokens and leaves none open. -/
def Settles (text : String) (found : List JsonToken) : Prop :=
  ∀ tokens, run ⟨tokens, .between⟩ text.toList = some ⟨found.reverse ++ tokens, .between⟩

/-- Read where no token is open, the text is these tokens, the last of which may wait for its
end. -/
def Writes (text : String) (found : List JsonToken) : Prop :=
  ∀ tokens, ∃ lexer, run ⟨tokens, .between⟩ text.toList = some lexer ∧
    lexer.finish = some (found.reverse ++ tokens)

/-- The text begins with a character that no literal and no numeral has. -/
def Delimits (text : String) : Prop :=
  ∃ c rest, text.toList = c :: rest ∧ c.isAlpha = false ∧ isNumberChar c = false

variable {text more : String} {found others : List JsonToken} {c : Char}

theorem Settles.writes (h : Settles text found) : Writes text found :=
  fun tokens ↦ ⟨_, h tokens, rfl⟩

theorem Settles.append (h : Settles text found) (hmore : Settles more others) :
    Settles (text ++ more) (found ++ others) := fun tokens ↦ by
  rw [String.toList_append, run_append, h tokens, Option.bind_some, hmore, List.reverse_append,
    List.append_assoc]

theorem Settles.append_writes (h : Settles text found) (hmore : Writes more others) :
    Writes (text ++ more) (found ++ others) := fun tokens ↦ by
  rw [String.toList_append, run_append, h tokens, Option.bind_some, List.reverse_append,
    List.append_assoc]
  exact hmore _

theorem Delimits.append (h : Delimits text) (more : String) : Delimits (text ++ more) := by
  obtain ⟨c, rest, htext, hends⟩ := h
  exact ⟨c, rest ++ more.toList, by rw [String.toList_append, htext, List.cons_append], hends⟩

/-- A delimiter is read as if the open token had ended before it. -/
theorem step_of_finish {lexer : Lexer} {tokens : List JsonToken}
    (hfinish : lexer.finish = some tokens) (halpha : c.isAlpha = false)
    (hnumber : isNumberChar c = false) : lexer.step c = step ⟨tokens, .between⟩ c := by
  obtain ⟨before, mode⟩ := lexer
  cases mode with
  | between => cases hfinish; rfl
  | literal => simp [step, halpha, hfinish]
  | number => simp [step, hnumber, hfinish]
  | _ => cases hfinish

/-- **A delimiter ends the token that waits for its end.** -/
theorem Writes.append (h : Writes text found) (hmore : Settles more others)
    (hdelimits : Delimits more) : Settles (text ++ more) (found ++ others) := fun tokens ↦ by
  obtain ⟨lexer, hrun, hfinish⟩ := h tokens
  obtain ⟨c, rest, htext, halpha, hnumber⟩ := hdelimits
  have hcontinue : lexer.run more.toList = run ⟨found.reverse ++ tokens, .between⟩ more.toList := by
    rw [htext, run, run, List.foldlM_cons, List.foldlM_cons, step_of_finish hfinish halpha hnumber]
  rw [String.toList_append, run_append, hrun, Option.bind_some, hcontinue, hmore,
    List.reverse_append, List.append_assoc]

theorem run_cons {lexer next : Lexer} {rest : List Char} (h : lexer.step c = some next) :
    lexer.run (c :: rest) = next.run rest := by
  rw [run, List.foldlM_cons, h]
  rfl

/-! ### Blanks, words and integers -/

theorem settles_blanks (h : ∀ c ∈ text.toList, isBlank c = true) :
    Settles text [] := fun tokens ↦ by
  generalize text.toList = chars at h
  induction chars with
  | nil => rfl
  | cons c rest ih =>
    obtain ⟨hc, hrest⟩ := List.forall_mem_cons.1 h
    have hstep : step ⟨tokens, .between⟩ c = some ⟨tokens, .between⟩ := by
      simp only [isBlank, Bool.or_eq_true, decide_eq_true_eq] at hc
      rcases hc with ((rfl | rfl) | rfl) | rfl <;> rfl
    rw [run_cons hstep, ih hrest]

theorem settles_lineStart (level : Nat) : Settles (Json.lineStart level) [] := by
  refine settles_blanks fun c hc ↦ ?_
  simp only [Json.lineStart, String.toList_append, String.toList_ofList, List.mem_append,
    List.mem_replicate] at hc
  rcases hc with hc | ⟨-, rfl⟩
  · rw [List.mem_singleton.1 hc]; rfl
  · rfl

theorem delimits_lineStart (level : Nat) : Delimits (Json.lineStart level) :=
  Delimits.append ⟨'\n', [], rfl, rfl, rfl⟩ _

/-- The digits of a numeral wait for its end. -/
theorem run_number (tokens : List JsonToken) (text : List Char) {chars : List Char}
    (h : ∀ c ∈ chars, isNumberChar c = true) :
    run ⟨tokens, .number text⟩ chars = some ⟨tokens, .number (chars.reverse ++ text)⟩ := by
  induction chars generalizing text with
  | nil => rfl
  | cons c rest ih =>
    obtain ⟨hc, hrest⟩ := List.forall_mem_cons.1 h
    have hstep : step ⟨tokens, .number text⟩ c = some ⟨tokens, .number (c :: text)⟩ := by
      simp [step, hc]
    rw [run_cons hstep, ih _ hrest, List.reverse_cons, List.append_assoc, List.singleton_append]

/-- A numeral begins with any of its characters that is no letter. -/
theorem start_number (tokens : List JsonToken) (hnumber : isNumberChar c = true)
    (halpha : c.isAlpha = false) : start tokens c = some ⟨tokens, .number [c]⟩ := by
  have hne : ∀ d, isNumberChar d = false → c ≠ d := by
    rintro d hd rfl
    exact absurd hnumber (by simp [hd])
  simp [start, punctuation?, isBlank, halpha, hnumber, hne '[' rfl, hne ']' rfl, hne '{' rfl,
    hne '}' rfl, hne ',' rfl, hne ':' rfl, hne ' ' rfl, hne '\t' rfl, hne '\n' rfl, hne '\r' rfl,
    hne '"' rfl]

/-- A digit is no letter: it stands before all of them. -/
theorem isAlpha_eq_false_of_isDigit (h : c.isDigit = true) : c.isAlpha = false := by
  have hbefore : ∀ letter : UInt32, '9'.toNat < letter.toNat → ¬ c.val ≥ letter := fun letter hlt ↦
    Nat.not_le.2 (Nat.lt_of_le_of_lt (Char.isDigit_iff_toNat.1 h).2 hlt)
  have hupper : c.isUpper = false := decide_eq_false fun h ↦ hbefore 'A'.val (by decide) h.1
  have hlower : c.isLower = false := by
    show (decide (c.val ≥ 'a'.val) && decide (c.val ≤ 'z'.val)) = false
    rw [decide_eq_false (hbefore 'a'.val (by decide)), Bool.false_and]
  show (c.isUpper || c.isLower) = false
  rw [hupper, hlower, Bool.false_or]

/-- The text of an integer consists of characters of a numeral, and it begins with no letter. -/
theorem exists_toString_eq_cons (n : Int) : ∃ c rest, (toString n).toList = c :: rest ∧
    c.isAlpha = false ∧ ∀ d ∈ c :: rest, isNumberChar d = true := by
  have hdigit : ∀ {d : Char} {m : Nat}, d ∈ Nat.toDigits 10 m → isNumberChar d = true := by
    intro d m hd
    simp [isNumberChar, isDigit_of_mem_toDigits hd]
  cases n with
  | ofNat m =>
    obtain ⟨c, rest, hcons⟩ := List.exists_cons_of_ne_nil (Nat.toDigits_ne_nil (b := 10) (n := m))
    refine ⟨c, rest, (toList_toString_ofNat m).trans hcons, ?_, fun d hd ↦ hdigit (hcons ▸ hd)⟩
    exact isAlpha_eq_false_of_isDigit (isDigit_of_mem_toDigits (hcons ▸ List.mem_cons_self))
  | negSucc m =>
    exact ⟨'-', _, toList_toString_negSucc m, rfl,
      List.forall_mem_cons.2 ⟨rfl, fun d ↦ hdigit⟩⟩

theorem writes_integer {n : Int} (hmin : -0x8000000000000000 ≤ n)
    (hmax : n < 0x10000000000000000) : Writes (toString n) [.num (.int n)] := fun tokens ↦ by
  obtain ⟨c, rest, htext, halpha, hnumber⟩ := exists_toString_eq_cons n
  obtain ⟨hc, hrest⟩ := List.forall_mem_cons.1 hnumber
  have hstart : step ⟨tokens, .between⟩ c = some ⟨tokens, .number [c]⟩ :=
    start_number tokens hc halpha
  refine ⟨⟨tokens, .number (rest.reverse ++ [c])⟩, ?_, ?_⟩
  · rw [htext, run_cons hstart, run_number tokens _ hrest]
  · have hread := Number.ofChars?_toString hmin hmax
    rw [htext] at hread
    simp [finish, hread]

theorem writes_null : Writes "null" [.null] := fun tokens ↦ ⟨⟨tokens, .literal _⟩, rfl, rfl⟩

theorem writes_bool (value : Bool) : Writes (if value then "true" else "false") [.bool value] :=
  fun tokens ↦ by cases value <;> exact ⟨⟨tokens, .literal _⟩, rfl, rfl⟩

/-! ### Quoted texts -/

theorem hexValue?_digitChar {n : Nat} (h : n < 16) : Text.hexValue? (Nat.digitChar n) = some n := by
  revert n
  decide

/-- A control character is read back from its four hexadecimal digits. -/
theorem run_controlEscape (tokens : List JsonToken) (text : List Char) (h : c.toNat < 0x20) :
    run ⟨tokens, .string text⟩ (Json.controlEscape c) = some ⟨tokens, .string (c :: text)⟩ := by
  have hhigh : step ⟨tokens, .unit text none 2 0⟩ (Nat.digitChar (c.toNat / 16)) =
      some ⟨tokens, .unit text none 3 (c.toNat / 16)⟩ := by
    simp [step, hexValue?_digitChar (n := c.toNat / 16) (by omega)]
  have hlow : step ⟨tokens, .unit text none 3 (c.toNat / 16)⟩ (Nat.digitChar (c.toNat % 16)) =
      some ⟨tokens, .string (c :: text)⟩ := by
    have hvalue : 16 * (c.toNat / 16) + c.toNat % 16 = c.toNat := Nat.div_add_mod ..
    have hunit : afterUnit text none c.toNat = some (.string (c :: text)) := by
      simp [afterUnit, show ¬ 0xD800 ≤ c.toNat by omega, show ¬ 0xDC00 ≤ c.toNat by omega]
    simp [step, hexValue?_digitChar (n := c.toNat % 16) (by omega), hvalue, hunit]
  have hzeros : run ⟨tokens, .string text⟩ ['\\', 'u', '0', '0'] =
      some ⟨tokens, .unit text none 2 0⟩ := rfl
  have hsplit : Json.controlEscape c = ['\\', 'u', '0', '0'] ++
      [Nat.digitChar (c.toNat / 16), Nat.digitChar (c.toNat % 16)] := rfl
  rw [hsplit, run_append, hzeros, Option.bind_some, run_cons hhigh, run_cons hlow]
  rfl

/-- **Every character is read back from the way it stands between quotes.** -/
theorem run_escapeChar (tokens : List JsonToken) (text : List Char) (c : Char) :
    run ⟨tokens, .string text⟩ (Json.escapeChar c) = some ⟨tokens, .string (c :: text)⟩ := by
  unfold Json.escapeChar
  split_ifs with hquote hbackslash hb hf hn hr ht hcontrol
  · subst hquote; rfl
  · subst hbackslash; rfl
  · subst hb; rfl
  · subst hf; rfl
  · subst hn; rfl
  · subst hr; rfl
  · subst ht; rfl
  · exact run_controlEscape tokens text hcontrol
  · have hstep : step ⟨tokens, .string text⟩ c = some ⟨tokens, .string (c :: text)⟩ := by
      simp [step, hquote, hbackslash, hcontrol]
    rw [run_cons hstep]
    rfl

theorem run_flatMap_escapeChar (tokens : List JsonToken) (text chars : List Char) :
    run ⟨tokens, .string text⟩ (chars.flatMap Json.escapeChar) =
      some ⟨tokens, .string (chars.reverse ++ text)⟩ := by
  induction chars generalizing text with
  | nil => rfl
  | cons c rest ih =>
    rw [List.flatMap_cons, run_append, run_escapeChar, Option.bind_some, ih, List.reverse_cons,
      List.append_assoc, List.singleton_append]

theorem settles_quote (text : String) : Settles (Json.quote text) [.str text] := fun tokens ↦ by
  have hchars : (Json.quote text).toList =
      '"' :: (text.toList.flatMap Json.escapeChar ++ ['"']) := by
    simp [Json.quote]
  rw [hchars, run_cons rfl, run_append, run_flatMap_escapeChar, Option.bind_some, run_cons rfl,
    List.append_nil, List.reverse_reverse, String.ofList_toList]
  rfl

end Lexer

/-! ### Values -/

/-- Tokens of several values with a comma between two of them. -/
def JsonToken.separated : List (List JsonToken) → List JsonToken
  | [] => []
  | first :: rest => first ++ rest.flatMap (.comma :: ·)

namespace Json

mutual

/-- The tokens of a value, whatever its layout. -/
def tokens : Json → List JsonToken
  | .null => [.null]
  | .bool value => [.bool value]
  | .num value => [.num value]
  | .str text => [.str text]
  | .arr items => .openBracket :: (JsonToken.separated (itemTokens items) ++ [.closeBracket])
  | .obj entries => .openBrace :: (JsonToken.separated (entryTokens entries) ++ [.closeBrace])

/-- The tokens of each item of an array. -/
def itemTokens : List Json → List (List JsonToken)
  | [] => []
  | item :: rest => item.tokens :: itemTokens rest

/-- The tokens of each entry of an object. -/
def entryTokens : List (String × Json) → List (List JsonToken)
  | [] => []
  | (key, value) :: rest => (.str key :: .colon :: value.tokens) :: entryTokens rest

end

theorem itemTokens_eq_map (items : List Json) : itemTokens items = items.map tokens := by
  induction items with
  | nil => rfl
  | cons item rest ih => rw [itemTokens, ih, List.map_cons]

theorem entryTokens_eq_map (entries : List (String × Json)) :
    entryTokens entries = entries.map fun e ↦ .str e.1 :: .colon :: e.2.tokens := by
  induction entries with
  | nil => rfl
  | cons entry rest ih => rw [entryTokens, ih, List.map_cons]

theorem prettyItems_eq_map (level : Nat) (items : List Json) :
    prettyItems level items = items.map (prettyAt level) := by
  induction items with
  | nil => rfl
  | cons item rest ih => rw [prettyItems, ih, List.map_cons]

theorem prettyEntries_eq_map (level : Nat) (entries : List (String × Json)) :
    prettyEntries level entries = entries.map fun e ↦ quote e.1 ++ ": " ++ e.2.prettyAt level := by
  induction entries with
  | nil => rfl
  | cons entry rest ih => rw [prettyEntries, ih, List.map_cons]

/-- A value that no reading can change: its numbers are integers of at most sixty-four bits, and no
key of an object comes twice. -/
inductive Lossless : Json → Prop
  | null : Lossless .null
  | bool (value : Bool) : Lossless (.bool value)
  | int {n : Int} (hmin : -0x8000000000000000 ≤ n) (hmax : n < 0x10000000000000000) :
      Lossless (.int n)
  | str (text : String) : Lossless (.str text)
  | arr {items : List Json} (hitems : ∀ item ∈ items, Lossless item) : Lossless (.arr items)
  | obj {entries : List (String × Json)} (hkeys : (entries.map (·.1)).Nodup)
      (hentries : ∀ entry ∈ entries, Lossless entry.2) : Lossless (.obj entries)

attribute [simp] Lossless.null Lossless.bool Lossless.str

@[simp]
theorem lossless_arr_iff {items : List Json} :
    (arr items).Lossless ↔ ∀ item ∈ items, item.Lossless :=
  ⟨fun h ↦ by cases h; assumption, .arr⟩

@[simp]
theorem lossless_obj_iff {entries : List (String × Json)} :
    (obj entries).Lossless ↔
      (entries.map (·.1)).Nodup ∧ ∀ entry ∈ entries, entry.2.Lossless :=
  ⟨fun h ↦ by cases h; constructor <;> assumption, fun h ↦ .obj h.1 h.2⟩

end Json

namespace Lexer

section Layout

variable {α : Type} {xs : List α} {text : α → String} {found : α → List JsonToken}

/-- Pieces on lines of their own are read one by one. -/
theorem writes_joinWith (level : Nat) (h : ∀ x ∈ xs, Writes (text x) (found x)) :
    Writes (Json.joinWith ("," ++ Json.lineStart level) (xs.map text))
      (JsonToken.separated (xs.map found)) := by
  have hcomma : Settles "," [.comma] := fun _ ↦ rfl
  have hseparator := hcomma.append (settles_lineStart level)
  have hdelimits : Delimits "," := ⟨',', [], rfl, rfl, rfl⟩
  induction xs with
  | nil => exact Settles.writes fun _ ↦ rfl
  | cons x rest ih =>
    obtain ⟨hx, hrest⟩ := List.forall_mem_cons.1 h
    cases rest with
    | nil => simpa [Json.joinWith, JsonToken.separated] using hx
    | cons y rest =>
      simpa [Json.joinWith, JsonToken.separated] using
        (hx.append hseparator (hdelimits.append _)).append_writes (ih hrest)

theorem settles_block {opening closing : String} {first last : JsonToken} (level : Nat)
    (hopening : Settles opening [first]) (hclosing : Settles closing [last])
    (h : ∀ x ∈ xs, Writes (text x) (found x)) :
    Settles (Json.block opening closing level (xs.map text))
      (first :: (JsonToken.separated (xs.map found) ++ [last])) := by
  unfold Json.block
  split_ifs with hempty
  · rw [List.isEmpty_iff, List.map_eq_nil_iff] at hempty
    subst hempty
    exact hopening.append hclosing
  · have hinner := (hopening.append (settles_lineStart (level + 1))).append_writes
      (writes_joinWith (level + 1) h)
    simpa using (hinner.append (settles_lineStart level) (delimits_lineStart level)).append hclosing

end Layout

/-- **A value over several lines writes its tokens**, at whatever level it stands. -/
theorem writes_prettyAt {value : Json} (h : value.Lossless) (level : Nat) :
    Writes (value.prettyAt level) value.tokens := by
  induction h generalizing level with
  | null => exact writes_null
  | bool value => exact writes_bool value
  | int hmin hmax => exact writes_integer hmin hmax
  | str text => exact (settles_quote text).writes
  | arr _ ih =>
    rw [Json.prettyAt, Json.tokens, Json.prettyItems_eq_map, Json.itemTokens_eq_map]
    exact (settles_block level (fun _ ↦ rfl) (fun _ ↦ rfl) fun item hitem ↦
      ih item hitem (level + 1)).writes
  | obj _ _ ih =>
    rw [Json.prettyAt, Json.tokens, Json.prettyEntries_eq_map, Json.entryTokens_eq_map]
    refine (settles_block level (fun _ ↦ rfl) (fun _ ↦ rfl) fun entry hentry ↦ ?_).writes
    have hcolon : Settles ": " [.colon] := fun _ ↦ rfl
    exact ((settles_quote entry.1).append hcolon).append_writes (ih entry hentry (level + 1))

end Lexer

/-- The tokens of a value are found in its text. -/
theorem JsonToken.list?_pretty {value : Json} (h : value.Lossless) :
    JsonToken.list? value.pretty.toList = some value.tokens := by
  obtain ⟨lexer, hrun, hfinish⟩ := Lexer.writes_prettyAt h 0 []
  rw [list?, Json.pretty, hrun]
  simp [hfinish]

end Recast
