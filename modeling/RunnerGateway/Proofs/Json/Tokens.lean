import Mathlib
import RunnerGateway.Json.Printer
import RunnerGateway.Json.Token

/-!
# Reading back what was printed: tokens

A printed string or integer is read back as it was, whatever may follow it inside a text.  Readers
take fuel; the length of the printed text is enough.
-/

namespace RunnerGateway
namespace Json

/-! ## Bytes of characters -/

/-- The UTF-8 bytes of characters. -/
def utf8 (cs : List Char) : Bytes :=
  cs.flatMap String.utf8EncodeChar

@[simp] theorem utf8_nil : utf8 [] = [] := rfl

@[simp] theorem utf8_append (cs ds : List Char) : utf8 (cs ++ ds) = utf8 cs ++ utf8 ds :=
  List.flatMap_append

theorem utf8_cons (c : Char) (cs : List Char) :
    utf8 (c :: cs) = String.utf8EncodeChar c ++ utf8 cs :=
  List.flatMap_cons

theorem utf8EncodeChar_ascii {c : Char} (hc : c.toNat ≤ 0x7F) :
    String.utf8EncodeChar c = [ascii c] := by
  have hval : c.val.toNat ≤ 0x7F := hc
  simp only [String.utf8EncodeChar, if_pos hval]
  rfl

theorem utf8_cons_ascii {c : Char} (hc : c.toNat ≤ 0x7F) (cs : List Char) :
    utf8 (c :: cs) = ascii c :: utf8 cs := by
  rw [utf8_cons, utf8EncodeChar_ascii hc, List.singleton_append]

theorem byteArray_toList_loop (a : ByteArray) (i : Nat) (done : List UInt8) :
    ByteArray.toList.loop a i done = done.reverse ++ a.data.toList.drop i := by
  fun_induction ByteArray.toList.loop a i done with
  | case1 i done hi ih =>
      have hdrop : a.data.toList.drop i = a.get! i :: a.data.toList.drop (i + 1) := by
        have hlen : i < a.data.toList.length := by simpa using hi
        rw [List.drop_eq_getElem_cons hlen]
        congr 1
        have hsize : i < a.data.size := hi
        simp only [ByteArray.get!, Array.getElem_toList]
        exact (getElem!_pos a.data i hsize).symm
      rw [ih, hdrop, List.reverse_cons, List.append_assoc, List.singleton_append]
  | case2 i done hi =>
      have hlen : a.data.toList.length ≤ i := by simpa using Nat.not_lt.1 hi
      rw [List.drop_eq_nil_of_le hlen, List.append_nil]

theorem byteArray_toList (a : ByteArray) : a.toList = a.data.toList := by
  rw [ByteArray.toList, byteArray_toList_loop]
  simp

theorem toList_toUTF8_ofList (cs : List Char) : (String.ofList cs).toUTF8.toList = utf8 cs := by
  rw [byteArray_toList, String.toUTF8_eq_toByteArray, String.toByteArray_ofList]
  exact List.toList_data_toByteArray

/-- The bytes of a text are read as that text. -/
theorem decodeUtf8?_utf8 (s : String) : decodeUtf8? (utf8 s.toList) = some s := by
  have hbytes : (utf8 s.toList).toByteArray = s.toByteArray := String.utf8Encode_toList
  rw [decodeUtf8?, hbytes, String.fromUTF8?, dif_pos s.isValidUTF8]
  rfl

/-! ## What may follow -/

/-- Nothing follows, or a comma or a closing bracket does. -/
def Ends (b : Bytes) : Prop :=
  ∀ c rest, b = c :: rest → c = ascii ',' ∨ c = ascii ']' ∨ c = ascii '\x7d'

theorem ends_nil : Ends [] :=
  nofun

theorem ends_cons {c : UInt8} (hc : c = ascii ',' ∨ c = ascii ']' ∨ c = ascii '\x7d')
    (rest : Bytes) : Ends (c :: rest) := by
  rintro d more h
  obtain ⟨rfl, rfl⟩ := List.cons.inj h
  exact hc

/-! ## Strings -/

/-- The byte stands for itself in a string. -/
def IsPlainByte (b : UInt8) : Prop :=
  b ≠ ascii '"' ∧ b ≠ ascii '\\' ∧ ¬b < 0x20

theorem readStringBytes_plain {bs : Bytes} (hbs : ∀ b ∈ bs, IsPlainByte b) (fuel : Nat)
    (done rest : Bytes) :
    readStringBytes (fuel + bs.length) done (bs ++ rest) =
      readStringBytes fuel (bs.reverse ++ done) rest := by
  induction bs generalizing done with
  | nil => rfl
  | cons b bs ih =>
      obtain ⟨hquote, hescape, hcontrol⟩ := hbs b List.mem_cons_self
      rw [List.length_cons, ← Nat.add_assoc, List.cons_append, readStringBytes, if_neg hquote,
        if_neg hescape, if_neg hcontrol, ih fun b' hb' => hbs b' (List.mem_cons_of_mem _ hb'),
        List.reverse_cons, List.append_assoc, List.singleton_append]

theorem readStringBytes_escape {e b : UInt8} (h : escapedByte? e = some b) (fuel : Nat)
    (done rest : Bytes) :
    readStringBytes (fuel + 1) done (ascii '\\' :: e :: rest) =
      readStringBytes fuel (b :: done) rest := by
  have hquote : ascii '\\' ≠ ascii '"' := by decide
  simp only [readStringBytes, if_neg hquote, if_true, readEscape, h, List.reverse_singleton,
    List.singleton_append]

theorem isPlainByte_of_high {b : UInt8} (h : 0x80 ≤ b.toNat) : IsPlainByte b := by
  refine ⟨?_, ?_, ?_⟩
  · rintro rfl
    exact absurd h (by decide)
  · rintro rfl
    exact absurd h (by decide)
  · intro hlow
    have hlow : b.toNat < 0x20 := hlow
    omega

/-- A character that needs no escape has plain bytes only. -/
theorem isPlainByte_of_mem_utf8EncodeChar {c : Char} (hquote : c ≠ '"') (hescape : c ≠ '\\')
    (hcontrol : ¬c.toNat < 0x20) {b : UInt8} (hb : b ∈ String.utf8EncodeChar c) :
    IsPlainByte b := by
  by_cases hascii : c.toNat ≤ 0x7F
  · rw [utf8EncodeChar_ascii hascii, List.mem_singleton] at hb
    subst hb
    have hnat : (ascii c).toNat = c.toNat := by
      simp only [ascii, UInt8.toNat_ofNat']
      omega
    have hne : ∀ d : Char, d.toNat ≤ 0x7F → c ≠ d → ascii c ≠ ascii d := by
      intro d hd hcd heq
      have hsame : c.toNat = d.toNat := by
        have := congrArg UInt8.toNat heq
        simp only [ascii, UInt8.toNat_ofNat'] at this
        omega
      exact hcd (Char.toNat_inj.1 hsame)
    refine ⟨hne _ (by decide) hquote, hne _ (by decide) hescape, ?_⟩
    intro hlow
    have hlow : (ascii c).toNat < 0x20 := hlow
    omega
  · have hval : ¬c.val.toNat ≤ 0x7F := hascii
    apply isPlainByte_of_high
    simp only [String.utf8EncodeChar, if_neg hval] at hb
    split at hb
    · rcases List.mem_cons.1 hb with rfl | hb
      · simp only [UInt8.toNat_ofNat']
        omega
      · obtain rfl := List.mem_singleton.1 hb
        simp only [UInt8.toNat_ofNat']
        omega
    · split at hb
      · simp only [List.mem_cons, List.not_mem_nil, or_false] at hb
        rcases hb with rfl | rfl | rfl <;> simp only [UInt8.toNat_ofNat'] <;> omega
      · simp only [List.mem_cons, List.not_mem_nil, or_false] at hb
        rcases hb with rfl | rfl | rfl | rfl <;> simp only [UInt8.toNat_ofNat'] <;> omega

theorem hexDigit_toNat_le (n : Nat) : (hexDigit n).toNat ≤ 0x7F := by
  have hall : ∀ m < 16, (hexDigit m).toNat ≤ 0x7F := by decide
  have hmod : hexDigit (n % 16) = hexDigit n := by rw [hexDigit, hexDigit, Nat.mod_mod]
  rw [← hmod]
  exact hall _ (Nat.mod_lt _ (by decide))

theorem hexDigit?_hexDigit (n : Nat) : hexDigit? (ascii (hexDigit n)) = some (n % 16) := by
  have hall : ∀ m < 16, hexDigit? (ascii (hexDigit m)) = some m := by decide
  have hmod : hexDigit (n % 16) = hexDigit n := by rw [hexDigit, hexDigit, Nat.mod_mod]
  rw [← hmod]
  exact hall _ (Nat.mod_lt _ (by decide))

theorem readEscape_code {n : Nat} (hn : n < 0x20) (rest : Bytes) :
    readEscape (ascii 'u' :: ascii '0' :: ascii '0' :: ascii (hexDigit (n / 16)) ::
      ascii (hexDigit n) :: rest) = .ok (codePointBytes n, rest) := by
  have hletter : escapedByte? (ascii 'u') = none := by decide
  have hzero : hexDigit? (ascii '0') = some 0 := by decide
  have hvalue : ((0 * 16 + 0) * 16 + n / 16 % 16) * 16 + n % 16 = n := by omega
  have hlow : ¬(0xDC00 ≤ n ∧ n ≤ 0xDFFF) := by omega
  have hhigh : ¬(0xD800 ≤ n ∧ n ≤ 0xDBFF) := by omega
  simp only [readEscape, hletter, if_true, readCodePoint, readHex, hzero, hexDigit?_hexDigit,
    hvalue, if_neg hlow, if_neg hhigh]

/-- How much of its fuel a reader of strings has left after an escaped character. -/
def ReadsChar (c : Char) : Prop :=
  ∀ (fuel : Nat) (done rest : Bytes), (utf8 (escapeChar c)).length ≤ fuel →
    ∃ left, fuel ≤ left + (utf8 (escapeChar c)).length ∧
      readStringBytes fuel done (utf8 (escapeChar c) ++ rest) =
        readStringBytes left ((String.utf8EncodeChar c).reverse ++ done) rest

theorem readsChar_of_letter {c e : Char} (hchar : escapeChar c = ['\\', e])
    (hc : c.toNat ≤ 0x7F) (he : e.toNat ≤ 0x7F)
    (hbyte : escapedByte? (ascii e) = some (ascii c)) : ReadsChar c := by
  intro fuel done rest hfuel
  have hbytes : utf8 (escapeChar c) = [ascii '\\', ascii e] := by
    rw [hchar, utf8_cons_ascii (by decide), utf8_cons_ascii he, utf8_nil]
  rw [hbytes] at hfuel ⊢
  obtain ⟨left, rfl⟩ : ∃ left, fuel = left + 1 := ⟨fuel - 1, by simp at hfuel; omega⟩
  refine ⟨left, by simp, ?_⟩
  rw [utf8EncodeChar_ascii hc]
  exact readStringBytes_escape hbyte left done rest

theorem readsChar_of_code {c : Char} (hc : c.toNat < 0x20)
    (hchar : escapeChar c =
      ['\\', 'u', '0', '0', hexDigit (c.toNat / 16), hexDigit c.toNat]) : ReadsChar c := by
  intro fuel done rest hfuel
  have hbytes : utf8 (escapeChar c) = [ascii '\\', ascii 'u', ascii '0', ascii '0',
      ascii (hexDigit (c.toNat / 16)), ascii (hexDigit c.toNat)] := by
    rw [hchar, utf8_cons_ascii (by decide), utf8_cons_ascii (by decide),
      utf8_cons_ascii (by decide), utf8_cons_ascii (by decide),
      utf8_cons_ascii (hexDigit_toNat_le _), utf8_cons_ascii (hexDigit_toNat_le _), utf8_nil]
  rw [hbytes] at hfuel ⊢
  obtain ⟨left, rfl⟩ : ∃ left, fuel = left + 1 := ⟨fuel - 1, by simp at hfuel; omega⟩
  refine ⟨left, by simp, ?_⟩
  have hquote : ascii '\\' ≠ ascii '"' := by decide
  have hcode : codePointBytes c.toNat = String.utf8EncodeChar c := by
    rw [codePointBytes, Char.ofNat_toNat]
  simp only [List.cons_append, List.nil_append, readStringBytes, if_neg hquote, if_true,
    readEscape_code hc, hcode]

theorem readsChar_of_plain {c : Char} (hchar : escapeChar c = [c])
    (hbytes : ∀ b ∈ String.utf8EncodeChar c, IsPlainByte b) : ReadsChar c := by
  intro fuel done rest hfuel
  have hutf8 : utf8 (escapeChar c) = String.utf8EncodeChar c := by
    rw [hchar, utf8_cons, utf8_nil, List.append_nil]
  rw [hutf8] at hfuel ⊢
  obtain ⟨left, rfl⟩ := Nat.exists_eq_add_of_le' hfuel
  exact ⟨left, Nat.le_refl _, readStringBytes_plain hbytes left done rest⟩

/-- Whatever a character is, its escaped form is read as the character. -/
theorem readsChar (c : Char) : ReadsChar c := by
  by_cases hquote : c = '"'
  · subst hquote
    exact readsChar_of_letter rfl (by decide) (by decide) (by decide)
  by_cases hescape : c = '\\'
  · subst hescape
    exact readsChar_of_letter rfl (by decide) (by decide) (by decide)
  by_cases hback : c.toNat = 0x08
  · obtain rfl : c = Char.ofNat 0x08 := Char.toNat_inj.1 hback
    exact readsChar_of_letter (e := 'b') rfl (by decide) (by decide) (by decide)
  by_cases hfeed : c.toNat = 0x0C
  · obtain rfl : c = Char.ofNat 0x0C := Char.toNat_inj.1 hfeed
    exact readsChar_of_letter (e := 'f') rfl (by decide) (by decide) (by decide)
  by_cases hline : c = '\n'
  · subst hline
    exact readsChar_of_letter rfl (by decide) (by decide) (by decide)
  by_cases hreturn : c = '\r'
  · subst hreturn
    exact readsChar_of_letter rfl (by decide) (by decide) (by decide)
  by_cases htab : c = '\t'
  · subst htab
    exact readsChar_of_letter rfl (by decide) (by decide) (by decide)
  by_cases hcontrol : c.toNat < 0x20
  · apply readsChar_of_code hcontrol
    simp only [escapeChar, if_neg hquote, if_neg hescape, if_neg hback, if_neg hfeed,
      if_neg hline, if_neg hreturn, if_neg htab, if_pos hcontrol]
  · apply readsChar_of_plain
    · simp only [escapeChar, if_neg hquote, if_neg hescape, if_neg hback, if_neg hfeed,
        if_neg hline, if_neg hreturn, if_neg htab, if_neg hcontrol]
    · intro b hb
      exact isPlainByte_of_mem_utf8EncodeChar hquote hescape hcontrol hb

theorem readStringBytes_escaped (cs : List Char) {fuel : Nat} (done rest : Bytes)
    (hfuel : (utf8 (cs.flatMap escapeChar)).length < fuel) :
    readStringBytes fuel done (utf8 (cs.flatMap escapeChar) ++ ascii '"' :: rest) =
      .ok (done.reverse ++ utf8 cs, rest) := by
  induction cs generalizing fuel done with
  | nil =>
      obtain ⟨left, rfl⟩ : ∃ left, fuel = left + 1 := ⟨fuel - 1, by simp at hfuel; omega⟩
      simp [readStringBytes]
  | cons c cs ih =>
      rw [List.flatMap_cons, utf8_append, List.length_append] at hfuel
      rw [List.flatMap_cons, utf8_append, List.append_assoc]
      obtain ⟨left, hleft, hread⟩ := readsChar c fuel done _ (by omega)
      rw [hread, ih _ (by omega), utf8_cons]
      simp

/-- The bytes of a printed string after its opening quote. -/
def stringTail (s : String) : Bytes :=
  utf8 (s.toList.flatMap escapeChar) ++ [ascii '"']

theorem utf8_stringChars (s : String) : utf8 (stringChars s) = ascii '"' :: stringTail s := by
  rw [stringChars, utf8_cons_ascii (by decide), utf8_append, stringTail,
    utf8_cons_ascii (by decide), utf8_nil]

/-- A printed string is read as it was. -/
theorem readString_stringTail (s : String) {fuel : Nat} (rest : Bytes)
    (hfuel : (stringTail s).length ≤ fuel) :
    readString fuel (stringTail s ++ rest) = .ok (s, rest) := by
  have hlen : (utf8 (s.toList.flatMap escapeChar)).length < fuel := by
    simpa [stringTail] using hfuel
  have hread := readStringBytes_escaped s.toList [] rest hlen
  rw [stringTail, List.append_assoc, List.singleton_append, readString, hread]
  simp only [List.reverse_nil, List.nil_append, decodeUtf8?_utf8]

/-! ## Numbers -/

theorem digit?_digitChar {n : Nat} (hn : n < 10) : digit? (ascii n.digitChar) = some n := by
  have hall : ∀ m < 10, digit? (ascii m.digitChar) = some m := by decide
  exact hall n hn

theorem utf8_toDigits_of_lt {n : Nat} (hn : n < 10) :
    utf8 (Nat.toDigits 10 n) = [ascii n.digitChar] := by
  have hall : ∀ m < 10, m.digitChar.toNat ≤ 0x7F := by decide
  rw [Nat.toDigits_of_lt_base hn, utf8_cons_ascii (hall n hn), utf8_nil]

theorem utf8_toDigits_of_le {n : Nat} (hn : 10 ≤ n) :
    utf8 (Nat.toDigits 10 n) =
      utf8 (Nat.toDigits 10 (n / 10)) ++ [ascii (n % 10).digitChar] := by
  have hall : ∀ m < 10, m.digitChar.toNat ≤ 0x7F := by decide
  have hlt : n % 10 < 10 := Nat.mod_lt _ (by decide)
  rw [Nat.toDigits_of_base_le (by decide) hn, utf8_append, utf8_cons_ascii (hall _ hlt), utf8_nil]

/-- The digits of a positive number are read as that number, if it fits a word. -/
theorem readNumber_toDigits (negative : Bool) {n : Nat} (hpos : 0 < n) (hn : n ≤ Text.maxWord)
    (rest : Bytes) :
    readNumber negative (utf8 (Nat.toDigits 10 n) ++ rest) = readWhole negative n rest := by
  induction n using Nat.strongRecOn generalizing rest with
  | ind n ih =>
      rcases Nat.lt_or_ge n 10 with hlt | hge
      · obtain ⟨m, rfl⟩ : ∃ m, n = m + 1 := ⟨n - 1, by omega⟩
        rw [utf8_toDigits_of_lt hlt, List.singleton_append]
        simp only [readNumber, digit?_digitChar hlt]
      · have hdigit : n % 10 < 10 := Nat.mod_lt _ (by decide)
        have hvalue : n / 10 * 10 + n % 10 = n := by omega
        rw [utf8_toDigits_of_le hge, List.append_assoc, List.singleton_append,
          ih (n / 10) (by omega) (by omega) (by omega), readWhole]
        simp only [digit?_digitChar hdigit, hvalue, if_pos hn]

theorem digit?_eq_none_of_ends {c : UInt8}
    (hc : c = ascii ',' ∨ c = ascii ']' ∨ c = ascii '\x7d') :
    digit? c = none ∧ c ≠ ascii '.' ∧ isExponentMark c = false := by
  rcases hc with rfl | rfl | rfl <;> decide

theorem finishWhole_of_ends (negative : Bool) (n : Nat) {rest : Bytes} (hrest : Ends rest) :
    finishWhole negative n rest = .ok (wholeNumber negative n, rest) := by
  cases rest with
  | nil => rfl
  | cons c rest =>
      obtain ⟨-, hpoint, hmark⟩ := digit?_eq_none_of_ends (hrest c rest rfl)
      simp [finishWhole, hpoint, hmark]

theorem readWhole_of_ends (negative : Bool) (n : Nat) {rest : Bytes} (hrest : Ends rest) :
    readWhole negative n rest = .ok (wholeNumber negative n, rest) := by
  cases rest with
  | nil => rfl
  | cons c rest =>
      obtain ⟨hdigit, -, -⟩ := digit?_eq_none_of_ends (hrest c rest rfl)
      rw [readWhole, hdigit]
      exact finishWhole_of_ends negative n hrest

/-- A printed natural number is read as it was, if it fits a word and something ends it. -/
theorem readNumber_of_ends (negative : Bool) {n : Nat} (hn : n ≤ Text.maxWord) {rest : Bytes}
    (hrest : Ends rest) :
    readNumber negative (utf8 (Nat.toDigits 10 n) ++ rest) =
      .ok (wholeNumber negative n, rest) := by
  rcases Nat.eq_zero_or_pos n with rfl | hpos
  · have hzero : digit? (ascii (Nat.digitChar 0)) = some 0 := by decide
    rw [utf8_toDigits_of_lt (by decide), List.singleton_append]
    cases rest with
    | nil => simp only [readNumber, hzero, finishWhole]
    | cons c rest =>
        obtain ⟨hdigit, -, -⟩ := digit?_eq_none_of_ends (hrest c rest rfl)
        simp only [readNumber, hzero, hdigit, Option.isSome_none, Bool.false_eq_true, if_false]
        exact finishWhole_of_ends negative 0 hrest
  · rw [readNumber_toDigits negative hpos hn]
    exact readWhole_of_ends negative n hrest

/-! ## Literals -/

theorem readLetters_utf8 (ls : List Char) (hls : ∀ l ∈ ls, l.toNat ≤ 0x7F) (rest : Bytes) :
    readLetters ls (utf8 ls ++ rest) = .ok rest := by
  induction ls with
  | nil => rfl
  | cons l ls ih =>
      rw [utf8_cons_ascii (hls l List.mem_cons_self), List.cons_append, readLetters, if_pos rfl]
      exact ih fun l' hl' => hls l' (List.mem_cons_of_mem _ hl')

end Json
end RunnerGateway
