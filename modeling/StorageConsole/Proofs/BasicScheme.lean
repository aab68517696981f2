import Mathlib.Data.List.TakeWhile
import StorageConsole.Backend.Authorization

/-!
What an authorization tells. Base64 is read back byte for byte, so its value gives away the name and
the password with a colon in between and nothing else; where the one ends and the other begins is
clear just if the name has no colon.
-/
namespace StorageConsole

namespace Text.Base64
variable {a b c : UInt8} {bytes bytes' : List UInt8} {cs : List Char}

theorem value?_symbol (v : Nat) : value? (symbol v) = some (v % 64) := by
  have hvalue : ∀ v < 64, value? (alphabet.getD v '=') = some v := by decide +kernel
  exact hvalue (v % 64) (Nat.mod_lt v (by decide))

theorem symbol_mem (v : Nat) : symbol v ∈ alphabet := by
  have hmem : ∀ v < 64, alphabet.getD v '=' ∈ alphabet := by decide +kernel
  exact hmem (v % 64) (Nat.mod_lt v (by decide))

theorem ne_pad_of_mem {c : Char} (h : c ∈ alphabet) : c ≠ '=' := by
  rintro rfl
  exact absurd h (by decide +kernel)

theorem symbol_ne_pad (v : Nat) : symbol v ≠ '=' := ne_pad_of_mem (symbol_mem v)

/-- Three bytes as one number. -/
def word (a b c : UInt8) : Nat := a.toNat * 65536 + b.toNat * 256 + c.toNat

theorem encode_one (a : UInt8) :
    encode [a] = [symbol (word a 0 0 / 262144), symbol (word a 0 0 / 4096), '=', '='] := by
  simp [encode, word]

theorem encode_two (a b : UInt8) :
    encode [a, b] = [symbol (word a b 0 / 262144), symbol (word a b 0 / 4096),
      symbol (word a b 0 / 64), '='] := by
  simp [encode, word]

theorem encode_three (a b c : UInt8) (rest : List UInt8) :
    encode (a :: b :: c :: rest) = symbol (word a b c / 262144) :: symbol (word a b c / 4096) ::
      symbol (word a b c / 64) :: symbol (word a b c) :: encode rest := rfl

/-- A number of 24 bits is made of four digits of six bits. -/
theorem sixes_eq {n : Nat} (h : n < 16777216) :
    ((n / 262144 % 64 * 64 + n / 4096 % 64) * 64 + n / 64 % 64) * 64 + n % 64 = n := by
  omega

/-- The bytes of a group are those that its four symbols were made of. -/
theorem group_word (a b c : UInt8) (drop : Nat) :
    group (word a b c / 262144 % 64) (word a b c / 4096 % 64) (word a b c / 64 % 64)
      (word a b c % 64) drop = [a, b, c].take (3 - drop) := by
  have ha := a.toNat_lt
  have hb := b.toNat_lt
  have hc := c.toNat_lt
  have hsixes := sixes_eq (n := word a b c) (by rw [word]; omega)
  have hfirst : UInt8.ofNat (word a b c / 65536) = a := by
    apply UInt8.toNat_inj.mp
    rw [UInt8.toNat_ofNat', word]
    omega
  have hsecond : UInt8.ofNat (word a b c / 256) = b := by
    apply UInt8.toNat_inj.mp
    rw [UInt8.toNat_ofNat', word]
    omega
  have hthird : UInt8.ofNat (word a b c) = c := by
    apply UInt8.toNat_inj.mp
    rw [UInt8.toNat_ofNat', word]
    omega
  rw [group, hsixes, hfirst, hsecond, hthird]

theorem decode_encode (bytes : List UInt8) : decode (encode bytes) = some bytes := by
  induction bytes using encode.induct with
  | case1 => rfl
  | case2 a =>
    -- The symbols that the equals signs stand for are those of zero.
    have hgroup := group_word a 0 0 2
    have hthird : word a 0 0 / 64 % 64 = 0 := by
      rw [word, UInt8.toNat_zero]
      omega
    have hfourth : word a 0 0 % 64 = 0 := by
      rw [word, UInt8.toNat_zero]
      omega
    rw [hthird, hfourth] at hgroup
    simp [encode_one, decode, value?_symbol, hgroup]
  | case3 a b =>
    have hgroup := group_word a b 0 1
    have hfourth : word a b 0 % 64 = 0 := by
      rw [word, UInt8.toNat_zero]
      omega
    rw [hfourth] at hgroup
    simp [encode_two, decode, value?_symbol, symbol_ne_pad, hgroup]
  | case4 a b c rest ih =>
    simp [encode_three, decode, value?_symbol, symbol_ne_pad, group_word, ih]

/-- A text in groups of four symbols, the last of which may be filled up with one or two equals
signs. -/
def IsPadded (cs : List Char) : Prop :=
  ∃ symbols pads, cs = symbols ++ List.replicate pads '=' ∧ (∀ c ∈ symbols, c ∈ alphabet) ∧
    pads ≤ 2 ∧ cs.length % 4 = 0

theorem isPadded_encode (bytes : List UInt8) : IsPadded (encode bytes) := by
  induction bytes using encode.induct with
  | case1 => exact ⟨[], 0, rfl, by simp, by decide, rfl⟩
  | case2 a =>
    exact ⟨[symbol (word a 0 0 / 262144), symbol (word a 0 0 / 4096)], 2, encode_one a,
      by simp [symbol_mem], by decide, by simp [encode_one]⟩
  | case3 a b =>
    exact ⟨[symbol (word a b 0 / 262144), symbol (word a b 0 / 4096), symbol (word a b 0 / 64)], 1,
      encode_two a b, by simp [symbol_mem], by decide, by simp [encode_two]⟩
  | case4 a b c rest ih =>
    obtain ⟨symbols, pads, hrest, hsymbols, hpads, hlength⟩ := ih
    refine ⟨symbol (word a b c / 262144) :: symbol (word a b c / 4096) ::
      symbol (word a b c / 64) :: symbol (word a b c) :: symbols, pads, ?_, ?_, hpads, ?_⟩
    · rw [encode_three, hrest]
      rfl
    · simpa [symbol_mem] using hsymbols
    · simp only [encode_three, List.length_cons]
      omega

/-- Whether a character is one of those that a header may hold. -/
def isVisible (c : Char) : Bool := ' ' ≤ c && c ≤ '~'

theorem IsPadded.visible (h : IsPadded cs) {c : Char} (hc : c ∈ cs) : isVisible c := by
  obtain ⟨symbols, pads, rfl, hsymbols, _⟩ := h
  have halphabet : alphabet.all isVisible := by decide +kernel
  rcases List.mem_append.mp hc with hc | hc
  · exact List.all_eq_true.mp halphabet c (hsymbols c hc)
  · rw [List.eq_of_mem_replicate hc]
    decide

end Text.Base64

namespace Text

theorem toList_loop (bytes : ByteArray) (i : Nat) (acc : List UInt8) :
    ByteArray.toList.loop bytes i acc = acc.reverse ++ bytes.data.toList.drop i := by
  fun_induction ByteArray.toList.loop bytes i acc with
  | case1 i acc hlt ih =>
    have hlength : i < bytes.data.toList.length := by simpa using hlt
    have hbyte : bytes.get! i = bytes.data.toList[i] := by
      change bytes.data[i]! = _
      rw [getElem!_pos bytes.data i hlt, Array.getElem_toList]
    rw [ih, List.drop_eq_getElem_cons hlength, List.reverse_cons, List.append_assoc, hbyte]
    rfl
  | case2 i acc hge =>
    have hlength : bytes.data.toList.length ≤ i := by simpa using hge
    rw [List.drop_of_length_le hlength, List.append_nil]

theorem mk_toList (bytes : ByteArray) : ByteArray.mk bytes.toList.toArray = bytes := by
  rw [ByteArray.toList, toList_loop]
  rfl

theorem fromUTF8?_toUTF8 (text : String) : String.fromUTF8? text.toUTF8 = some text := by
  simp only [String.fromUTF8?, String.toUTF8_eq_toByteArray, dif_pos text.isValidUTF8]
  rfl

end Text

namespace Backend
variable {c d : Credentials} {value : String}

/-- What a header tells: the text behind the name of the scheme, out of base64 and UTF-8. -/
def readBasic? (value : String) : Option String :=
  match value.toList with
  | 'B' :: 'a' :: 's' :: 'i' :: 'c' :: ' ' :: token => do
    let bytes ← Text.Base64.decode token
    String.fromUTF8? ⟨bytes.toArray⟩
  | _ => none

/-- The texts in front of the first colon and behind it. -/
def splitColon (text : String) : String × String :=
  (String.ofList (text.toList.takeWhile (· != ':')),
    String.ofList (text.toList.dropWhile (· != ':')).tail)

theorem toList_basicToken (c : Credentials) :
    (basicToken c).toList =
      "Basic ".toList ++ Text.Base64.encode (c.name ++ ":" ++ c.password).toUTF8.toList := by
  rw [basicToken, String.toList_append]
  exact congrArg ("Basic ".toList ++ ·) String.toList_ofList

theorem readBasic?_basicToken (c : Credentials) :
    readBasic? (basicToken c) = some (c.name ++ ":" ++ c.password) := by
  rw [readBasic?, toList_basicToken]
  change (Text.Base64.decode (Text.Base64.encode (c.name ++ ":" ++ c.password).toUTF8.toList)).bind
    (fun bytes => String.fromUTF8? ⟨bytes.toArray⟩) = _
  rw [Text.Base64.decode_encode, Option.bind_some, Text.mk_toList, Text.fromUTF8?_toUTF8]

/-- The halves of the text are the name and the password just if the colon between them is its
first. -/
theorem splitColon_eq_iff (name password : String) :
    splitColon (name ++ ":" ++ password) = (name, password) ↔ ':' ∉ name.toList := by
  have htext : (name ++ ":" ++ password).toList = name.toList ++ ':' :: password.toList := by
    simp [String.toList_append]
  rw [splitColon, htext]
  constructor
  · intro h hcolon
    have hname : (name.toList ++ ':' :: password.toList).takeWhile (· != ':') = name.toList := by
      have hfirst := congrArg (·.1.toList) h
      simpa using hfirst
    rw [← hname] at hcolon
    simpa using List.mem_takeWhile_imp hcolon
  · intro hcolon
    have hname : ∀ ch ∈ name.toList, (ch != ':') = true := fun ch hch =>
      bne_iff_ne.mpr fun heq => hcolon (heq ▸ hch)
    rw [List.takeWhile_append_of_pos hname, List.dropWhile_append_of_pos hname]
    simp

theorem authorization?_of_empty (h : c.name = "") : authorization? (some c) = none := by
  rw [authorization?, h]
  rfl

theorem authorization?_of_ne_empty (h : c.name ≠ "") :
    authorization? (some c) = some (basicToken c) :=
  if_neg (mt String.isEmpty_iff.mp h)

/-- The tokens of two users are the same just if the texts are that they stand for. -/
theorem basicToken_eq_iff :
    basicToken c = basicToken d ↔ c.name ++ ":" ++ c.password = d.name ++ ":" ++ d.password := by
  constructor
  · intro h
    have hread := congrArg readBasic? h
    rw [readBasic?_basicToken, readBasic?_basicToken] at hread
    exact Option.some.inj hread
  · intro h
    rw [basicToken, h]
    rfl

/-- Whoever has a name is authorized, by a header that a request can hold and that tells name and
password in base64; a reader takes it apart rightly just if the name has no colon, and tells two users
apart just if their texts differ. -/
theorem authorization_tells_user (c d : Credentials) :
    ((authorization? (some c)).isSome ↔ c.name ≠ "") ∧
    (∀ value, authorization? (some c) = some value →
      (∃ token, value = "Basic " ++ token ∧ Text.Base64.IsPadded token.toList ∧
        Text.Base64.decode token.toList = some (c.name ++ ":" ++ c.password).toUTF8.toList) ∧
      (∀ ch ∈ value.toList, Text.Base64.isVisible ch) ∧
      ((readBasic? value).map splitColon = some (c.name, c.password) ↔ ':' ∉ c.name.toList)) ∧
    (c.name ≠ "" → d.name ≠ "" →
      (authorization? (some c) = authorization? (some d) ↔
        c.name ++ ":" ++ c.password = d.name ++ ":" ++ d.password)) := by
  refine ⟨?_, fun value hvalue => ?_, fun hc hd => ?_⟩
  · by_cases hname : c.name = ""
    · simp [authorization?_of_empty hname, hname]
    · simp [authorization?_of_ne_empty hname, hname]
  · have hname : c.name ≠ "" := by
      intro hname
      rw [authorization?_of_empty hname] at hvalue
      cases hvalue
    obtain rfl : basicToken c = value := by
      rw [authorization?_of_ne_empty hname] at hvalue
      exact Option.some.inj hvalue
    have hpadded := Text.Base64.isPadded_encode (c.name ++ ":" ++ c.password).toUTF8.toList
    refine ⟨⟨Text.Base64.encodeText (c.name ++ ":" ++ c.password), rfl, ?_, ?_⟩, fun ch hch => ?_, ?_⟩
    · rw [Text.Base64.encodeText, String.toList_ofList]
      exact hpadded
    · rw [Text.Base64.encodeText, String.toList_ofList, Text.Base64.decode_encode]
    · rw [toList_basicToken] at hch
      have hscheme : "Basic ".toList.all Text.Base64.isVisible := by decide
      rcases List.mem_append.mp hch with hch | hch
      · exact List.all_eq_true.mp hscheme ch hch
      · exact hpadded.visible hch
    · rw [readBasic?_basicToken, Option.map_some, Option.some_inj, splitColon_eq_iff]
  · rw [authorization?_of_ne_empty hc, authorization?_of_ne_empty hd, Option.some_inj,
      basicToken_eq_iff]

/-- Two users whose names and passwords run together into one text. -/
def colonInName : Credentials := .typed "a:b" "c"

def colonInPassword : Credentials := .typed "a" "b:c"

theorem authorization_tells_user_colons :
    authorization? (some colonInName) = some "Basic YTpiOmM=" ∧
    authorization? (some colonInName) = authorization? (some colonInPassword) ∧
    (readBasic? "Basic YTpiOmM=").map splitColon ≠ some ("a:b", "c") ∧
    (readBasic? "Basic YTpiOmM=").map splitColon = some ("a", "b:c") := by
  have hvalue : authorization? (some colonInName) = some "Basic YTpiOmM=" := by decide +kernel
  obtain ⟨_, htells, hsame⟩ := authorization_tells_user colonInName colonInPassword
  have hequal := (hsame (by decide) (by decide)).mpr (by decide)
  obtain ⟨_, _, hname⟩ := htells _ hvalue
  obtain ⟨_, htells, _⟩ := authorization_tells_user colonInPassword colonInName
  obtain ⟨_, _, hpassword⟩ := htells _ (hequal.symm.trans hvalue)
  exact ⟨hvalue, hequal, fun h => hname.mp h (by decide), hpassword.mpr (by decide)⟩

end Backend
end StorageConsole
