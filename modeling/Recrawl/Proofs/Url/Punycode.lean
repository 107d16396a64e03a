import Recrawl.Url.Punycode

/-!
Punycode is read back as the text that was written. The two sides walk through the same places, in
ascending order of code points and from left to right for each of them: the writer counts the places
that it passes between two characters, and the reader moves on by that count.
-/

namespace Recrawl.Url.Punycode

theorem digitValue?_digit {value : Nat} (h : value < 36) : digitValue? (digit value) = some value := by
  have hall : ∀ value < 36, digitValue? (digit value) = some value := by decide
  exact hall value h

/-- Places the character that a complete number leads to. -/
def Decoding.place (state : Decoding) (number : Nat) : Option Decoding :=
  let size := state.text.length + 1
  let steps := state.index + number
  let code := state.code + steps / size
  let index := steps % size
  if h : code.isValidChar then
    some {
      text := state.text.take index ++ Char.ofNatAux code h :: state.text.drop index
      code := code
      index := index + 1
      bias := adapt number size (state.index == 0) }
  else none

/-- A digit completes the number, or adds to it. -/
theorem Decoding.step_of_digitValue? (state : Decoding) {c : Char} {value : Nat}
    (h : digitValue? c = some value) :
    state.step c =
      if value < threshold state.bias state.position then
        state.place (state.number + value * state.weight)
      else some { state with
        number := state.number + value * state.weight
        weight := state.weight * (36 - threshold state.bias state.position)
        position := state.position + 36 } := by
  unfold step place
  rw [h]

/-- The digits of a number lead to the place of that number. -/
theorem Decoding.foldlM_encodeNumber (state : Decoding) (number : Nat) :
    (encodeNumber state.bias state.position number).foldlM step state =
      state.place (state.number + number * state.weight) := by
  induction number using Nat.strongRecOn generalizing state with
  | ind number ih =>
    have hleast := threshold_pos state.bias state.position
    have hmost := threshold_le state.bias state.position
    rw [encodeNumber]
    split
    · rename_i hlast
      rw [List.foldlM_cons, step_of_digitValue? state (digitValue?_digit (by omega)), if_pos hlast]
      cases state.place (state.number + number * state.weight) <;> rfl
    · rename_i hmore
      generalize hleastEq : threshold state.bias state.position = least at *
      have hbase : 0 < 36 - least := by omega
      have hdigit := Nat.mod_lt (number - least) hbase
      have hdivide := Nat.mod_add_div (number - least) (36 - least)
      have hsmaller : (number - least) / (36 - least) < number :=
        Nat.lt_of_le_of_lt (Nat.div_le_self _ _) (by omega)
      have hnumber : number * state.weight =
          (least + (number - least) % (36 - least)) * state.weight +
            (number - least) / (36 - least) * (state.weight * (36 - least)) := by
        have hparts : number = least + (number - least) % (36 - least) +
            (36 - least) * ((number - least) / (36 - least)) := by omega
        conv => lhs; rw [hparts]
        rw [Nat.add_mul, Nat.mul_comm (36 - least), Nat.mul_assoc, Nat.mul_comm (36 - least)]
      have hdigit : least + (number - least) % (36 - least) < 36 := by omega
      have hstep := state.step_of_digitValue? (digitValue?_digit hdigit)
      rw [hleastEq, if_neg (by omega)] at hstep
      rw [List.foldlM_cons, hstep, hnumber, ← Nat.add_assoc]
      exact ih _ hsmaller _

/-- The characters in front of a code point. -/
def below (code : Nat) (text : List Char) : List Char := text.filter fun c => c.toNat < code

theorem below_cons_of_lt {code : Nat} {c : Char} (h : c.toNat < code) (text : List Char) :
    below code (c :: text) = c :: below code text :=
  List.filter_cons_of_pos (decide_eq_true h)

theorem below_cons_of_not_lt {code : Nat} {c : Char} (h : ¬ c.toNat < code) (text : List Char) :
    below code (c :: text) = below code text :=
  List.filter_cons_of_neg (by rw [decide_eq_true_eq]; exact h)

theorem below_append (code : Nat) (a b : List Char) : below code (a ++ b) = below code a ++ below code b :=
  List.filter_append a b

/-- As many steps as there are to a place lead there. -/
theorem Decoding.place_of_steps (state : Decoding) {number code index : Nat}
    (hsteps : state.index + number = (code - state.code) * (state.text.length + 1) + index)
    (hindex : index ≤ state.text.length) (hcode : state.code ≤ code) (hvalid : code.isValidChar) :
    state.place number = some {
      text := state.text.take index ++ Char.ofNatAux code hvalid :: state.text.drop index
      code := code
      index := index + 1
      bias := adapt number (state.text.length + 1) (state.index == 0) } := by
  have hsize : 0 < state.text.length + 1 := by omega
  have hlt : index < state.text.length + 1 := by omega
  have hdiv : (state.index + number) / (state.text.length + 1) = code - state.code := by
    rw [hsteps, Nat.add_comm, Nat.add_mul_div_right _ _ hsize, Nat.div_eq_of_lt hlt, Nat.zero_add]
  have hmod : (state.index + number) % (state.text.length + 1) = index := by
    rw [hsteps, Nat.add_comm, Nat.add_mul_mod_self_right, Nat.mod_eq_of_lt hlt]
  have hplace : state.code + (state.index + number) / (state.text.length + 1) = code := by
    rw [hdiv]
    omega
  clear hdiv hsteps hindex hlt
  subst hplace hmod
  exact dif_pos hvalid

/-- The reader keeps up with the writer, which has taken `front` of the text while it places the
characters of value `code`: it has read all digits, has the characters that are placed, and lacks
just the steps that the writer has counted. -/
structure Decoding.KeepsUp (reader : Decoding) (basic : List Char) (writer : Encoding) (code : Nat)
    (front rest : List Char) : Prop where
  read : writer.written.reverse.foldlM step { text := basic } = some reader
  text : reader.text = below (code + 1) front ++ below code rest
  placed : writer.placed = reader.text.length
  bias : writer.bias = reader.bias
  number : reader.number = 0
  weight : reader.weight = 1
  position : reader.position = 36
  first : (writer.placed == basic.length) = (reader.index == 0)
  least : reader.code ≤ code
  delta : writer.delta + reader.index =
    (code - reader.code) * (reader.text.length + 1) + (below (code + 1) front).length
  enough : basic.length ≤ reader.text.length

/-- The reader with a character of value `code` placed between those of the text in front of it and
behind it that have places. -/
def Decoding.placing (reader : Decoding) (delta code : Nat) (front : List Char) (c : Char)
    (rest : List Char) : Decoding where
  text := below (code + 1) front ++ c :: below code rest
  code := code
  index := (below (code + 1) front).length + 1
  bias := adapt delta (reader.text.length + 1) (reader.index == 0)

namespace Decoding.KeepsUp

variable {reader : Decoding} {basic front rest : List Char} {writer : Encoding} {code : Nat}

/-- A character that is placed already is passed. -/
theorem pass_of_lt {c : Char} (h : reader.KeepsUp basic writer code front (c :: rest))
    (hlt : c.toNat < code) :
    reader.KeepsUp basic (writer.pass basic.length code c) code (front ++ [c]) rest := by
  have hdelta := h.delta
  have hpass : writer.pass basic.length code c = { writer with delta := writer.delta + 1 } := by
    simp [Encoding.pass, hlt]
  have hfront : below (code + 1) (front ++ [c]) = below (code + 1) front ++ [c] := by
    rw [below_append, below_cons_of_lt (by omega)]
    rfl
  have hrest : below code (c :: rest) = c :: below code rest := below_cons_of_lt hlt rest
  rw [hpass]
  refine { h with text := ?_, delta := ?_ }
  · rw [h.text, hfront, hrest, List.append_assoc, List.singleton_append]
  · rw [hfront, List.length_append, List.length_singleton]
    change writer.delta + 1 + reader.index = _
    omega

/-- A character that comes later is left where it is. -/
theorem pass_of_gt {c : Char} (h : reader.KeepsUp basic writer code front (c :: rest))
    (hgt : code < c.toNat) :
    reader.KeepsUp basic (writer.pass basic.length code c) code (front ++ [c]) rest := by
  have hpass : writer.pass basic.length code c = writer := by
    have hlt : ¬ c.toNat < code := by omega
    have hne : ¬ c.toNat = code := by omega
    simp [Encoding.pass, hlt, hne]
  have hfront : below (code + 1) (front ++ [c]) = below (code + 1) front := by
    rw [below_append, below_cons_of_not_lt (by omega)]
    exact List.append_nil _
  have hrest : below code (c :: rest) = below code rest := below_cons_of_not_lt (by omega) rest
  rw [hpass]
  refine { h with text := ?_, delta := ?_ }
  · rw [h.text, hfront, hrest]
  · rw [hfront]
    exact h.delta

/-- The number that is written leads to the place of the character. -/
theorem foldlM_delta {c : Char} (h : reader.KeepsUp basic writer code front (c :: rest))
    (heq : c.toNat = code) :
    (encodeNumber writer.bias 36 writer.delta).foldlM step reader =
      some (reader.placing writer.delta code front c rest) := by
  have hindex : (below (code + 1) front).length ≤ reader.text.length := by
    rw [h.text, List.length_append]
    exact Nat.le_add_right _ _
  have hvalid : code.isValidChar := heq ▸ c.valid
  have hchar : Char.ofNatAux code hvalid = c := by
    rw [← Char.ofNat_toNat c, heq, Char.ofNat, dif_pos hvalid]
  have hsteps : reader.index + writer.delta =
      (code - reader.code) * (reader.text.length + 1) + (below (code + 1) front).length := by
    rw [← h.delta, Nat.add_comm]
  have hplace := reader.place_of_steps hsteps hindex h.least hvalid
  have htake : reader.text.take (below (code + 1) front).length = below (code + 1) front := by
    rw [h.text, List.take_left]
  have hdrop : reader.text.drop (below (code + 1) front).length = below code rest := by
    rw [h.text, List.drop_left, below_cons_of_not_lt (by omega)]
  rw [hchar, htake, hdrop] at hplace
  have hnumber := reader.foldlM_encodeNumber writer.delta
  rwa [h.number, h.weight, h.position, Nat.zero_add, Nat.mul_one, hplace, ← h.bias] at hnumber

/-- A character of the current value is placed. -/
theorem pass_of_eq {c : Char} (h : reader.KeepsUp basic writer code front (c :: rest))
    (heq : c.toNat = code) :
    (reader.placing writer.delta code front c rest).KeepsUp basic
      (writer.pass basic.length code c) code (front ++ [c]) rest := by
  have henough := h.enough
  have hfront : below (code + 1) (front ++ [c]) = below (code + 1) front ++ [c] := by
    rw [below_append, below_cons_of_lt (by omega)]
    rfl
  have hpass : writer.pass basic.length code c =
      { written := (encodeNumber writer.bias 36 writer.delta).reverse ++ writer.written
        delta := 0
        bias := adapt writer.delta (writer.placed + 1) (writer.placed == basic.length)
        placed := writer.placed + 1 } := by
    simp [Encoding.pass, heq]
  have hlength : (reader.placing writer.delta code front c rest).text.length =
      reader.text.length + 1 := by
    rw [placing, h.text, below_cons_of_not_lt (by omega), List.length_append, List.length_append,
      List.length_cons]
    omega
  rw [hpass]
  refine
    { read := ?_, text := ?_, placed := ?_, bias := ?_, number := rfl, weight := rfl
      position := rfl, first := ?_, least := Nat.le_refl _, delta := ?_, enough := ?_ }
  · rw [List.reverse_append, List.reverse_reverse, List.foldlM_append, h.read]
    exact h.foldlM_delta heq
  · rw [hfront, List.append_assoc, List.singleton_append]
    rfl
  · rw [hlength]
    exact congrArg (· + 1) h.placed
  · change adapt writer.delta (writer.placed + 1) (writer.placed == basic.length) =
      adapt writer.delta (reader.text.length + 1) (reader.index == 0)
    rw [h.first, h.placed]
  · have hplaced : writer.placed + 1 ≠ basic.length := by
      rw [h.placed]
      omega
    change (writer.placed + 1 == basic.length) = false
    exact beq_eq_false_iff_ne.mpr hplaced
  · change 0 + ((below (code + 1) front).length + 1) = (code - code) * _ + _
    rw [hfront, Nat.sub_self, Nat.zero_mul, List.length_append, List.length_singleton]
  · rw [hlength]
    omega

/-- One more character of the text is taken. -/
theorem pass {c : Char} (h : reader.KeepsUp basic writer code front (c :: rest)) :
    ∃ reader' : Decoding,
      reader'.KeepsUp basic (writer.pass basic.length code c) code (front ++ [c]) rest := by
  rcases Nat.lt_trichotomy c.toNat code with hlt | heq | hgt
  · exact ⟨reader, h.pass_of_lt hlt⟩
  · exact ⟨_, h.pass_of_eq heq⟩
  · exact ⟨reader, h.pass_of_gt hgt⟩

/-- The rest of the text is taken. -/
theorem foldl_pass (h : reader.KeepsUp basic writer code front rest) :
    ∃ reader' : Decoding, reader'.KeepsUp basic
      (rest.foldl (Encoding.pass basic.length code) writer) code (front ++ rest) [] := by
  induction rest generalizing reader writer front with
  | nil => exact ⟨reader, by rwa [List.append_nil]⟩
  | cons c rest ih =>
    obtain ⟨reader', hreader'⟩ := h.pass
    obtain ⟨last, hlast⟩ := ih hreader'
    refine ⟨last, ?_⟩
    rwa [List.append_assoc] at hlast

/-- Between two values the writer turns to the next code point, where no character is taken yet. -/
theorem next (h : reader.KeepsUp basic writer code front []) :
    reader.KeepsUp basic { writer with delta := writer.delta + 1 } (code + 1) [] front := by
  have htext := h.text
  have hdelta := h.delta
  have hleast := h.least
  have hbelow : below code [] = [] := rfl
  rw [hbelow, List.append_nil] at htext
  refine { h with text := ?_, least := by omega, delta := ?_ }
  · rw [htext]
    rfl
  · have hcode : code + 1 - reader.code = (code - reader.code) + 1 := by omega
    have hlength : (below (code + 1 + 1) []).length = 0 := rfl
    rw [hcode, hlength, Nat.add_mul, Nat.one_mul, Nat.add_zero]
    rw [← htext] at hdelta
    change writer.delta + 1 + reader.index = _
    omega

/-- The code points up to the next value are passed, as no character has them. -/
theorem rise {value : Nat} (h : reader.KeepsUp basic writer code [] rest) (hle : code ≤ value)
    (hnone : ∀ c ∈ rest, c.toNat < value → c.toNat < code) :
    reader.KeepsUp basic
      { writer with delta := writer.delta + (value - code) * (writer.placed + 1) } value [] rest := by
  have hleast := h.least
  have hdelta := h.delta
  have hbelow : below value rest = below code rest := by
    refine List.filter_congr fun c hc => ?_
    have hiff : c.toNat < value ↔ c.toNat < code := ⟨hnone c hc, fun hlt => by omega⟩
    simp [hiff]
  refine { h with text := ?_, least := by omega, delta := ?_ }
  · rw [hbelow]
    exact h.text
  · have hcode : value - reader.code = (value - code) + (code - reader.code) := by omega
    have hlength : (below (value + 1) []).length = 0 := rfl
    have hnil : (below (code + 1) []).length = 0 := rfl
    rw [hnil] at hdelta
    rw [hcode, hlength, Nat.add_mul, h.placed]
    change writer.delta + (value - code) * (reader.text.length + 1) + reader.index = _
    omega

end Decoding.KeepsUp

/-- The reader keeps up with all values, once these are the code points of the text from `code` on,
in ascending order. -/
theorem keepsUp_encodeValues {text basic : List Char} {values : List Nat} {reader : Decoding}
    {writer : Encoding} {code : Nat} (h : reader.KeepsUp basic writer code [] text)
    (hascending : values.Pairwise (· < ·)) (hfrom : ∀ value ∈ values, code ≤ value)
    (hall : ∀ c ∈ text, code ≤ c.toNat → c.toNat ∈ values) :
    ∃ reader' : Decoding, reader'.text = text ∧ reader'.position = 36 ∧
      (encodeValues text basic.length code values writer).written.reverse.foldlM Decoding.step
        { text := basic } = some reader' := by
  induction values generalizing reader writer code with
  | nil =>
    have htext : reader.text = text := by
      rw [h.text]
      refine List.filter_eq_self.mpr fun c hc => decide_eq_true ?_
      exact Nat.lt_of_not_le fun hle => by cases hall c hc hle
    exact ⟨reader, htext, h.position, h.read⟩
  | cons value values ih =>
    obtain ⟨hleast, hascending⟩ := List.pairwise_cons.mp hascending
    have hrisen := h.rise (hfrom value List.mem_cons_self) fun c hc hlt =>
      Nat.lt_of_not_le fun hle => by
        rcases List.mem_cons.mp (hall c hc hle) with heq | hmem
        · omega
        · have hless := hleast _ hmem
          omega
    obtain ⟨passed, hpassed⟩ := hrisen.foldl_pass
    rw [List.nil_append] at hpassed
    refine ih hpassed.next hascending (fun next hnext => hleast next hnext) ?_
    intro c hc hle
    rcases List.mem_cons.mp (hall c hc (by have := hfrom value List.mem_cons_self; omega)) with
      heq | hmem
    · omega
    · exact hmem

theorem mem_insertValue {code value : Nat} {values : List Nat} :
    value ∈ insertValue code values ↔ value = code ∨ value ∈ values := by
  induction values with
  | nil => simp [insertValue]
  | cons least rest ih =>
    rw [insertValue]
    split
    · simp
    · split
      · rename_i heq
        obtain rfl : code = least := eq_of_beq heq
        simp
      · simp only [List.mem_cons, ih]
        constructor
        · rintro (h | h | h)
          · exact .inr (.inl h)
          · exact .inl h
          · exact .inr (.inr h)
        · rintro (h | h | h)
          · exact .inr (.inl h)
          · exact .inl h
          · exact .inr (.inr h)

theorem pairwise_insertValue {code : Nat} {values : List Nat} (h : values.Pairwise (· < ·)) :
    (insertValue code values).Pairwise (· < ·) := by
  induction values with
  | nil => simp [insertValue]
  | cons least rest ih =>
    obtain ⟨hleast, hrest⟩ := List.pairwise_cons.mp h
    rw [insertValue]
    split
    · rename_i hlt
      refine List.pairwise_cons.mpr ⟨?_, h⟩
      intro value hvalue
      rcases List.mem_cons.mp hvalue with rfl | hvalue
      · exact hlt
      · have := hleast value hvalue
        omega
    · split
      · exact h
      · rename_i hle hne
        refine List.pairwise_cons.mpr ⟨?_, ih hrest⟩
        intro value hvalue
        rcases mem_insertValue.mp hvalue with rfl | hvalue
        · have : value ≠ least := fun heq => hne (beq_iff_eq.mpr heq)
          omega
        · exact hleast value hvalue

theorem mem_foldr_insertValue {value : Nat} {codes : List Nat} :
    value ∈ codes.foldr insertValue [] ↔ value ∈ codes := by
  induction codes with
  | nil => rfl
  | cons code rest ih => rw [List.foldr_cons, mem_insertValue, ih, List.mem_cons]

theorem mem_valuesOf {value : Nat} {text : List Char} :
    value ∈ valuesOf text ↔ 0x80 ≤ value ∧ ∃ c ∈ text, c.toNat = value := by
  rw [valuesOf, mem_foldr_insertValue, List.mem_filter, List.mem_map, decide_eq_true_iff, and_comm]

theorem pairwise_valuesOf (text : List Char) : (valuesOf text).Pairwise (· < ·) := by
  unfold valuesOf
  generalize (text.map Char.toNat).filter _ = codes
  induction codes with
  | nil => exact List.Pairwise.nil
  | cons code rest ih => exact pairwise_insertValue ih

/-- The digits of a text. -/
def digitsOf (text : List Char) : List Char :=
  let basic := below 0x80 text
  (encodeValues text basic.length 0x80 (valuesOf text)
    ⟨[], 0, firstBias, basic.length⟩).written.reverse

theorem foldlM_digitsOf (text : List Char) :
    ∃ reader : Decoding, reader.text = text ∧ reader.position = 36 ∧
      (digitsOf text).foldlM Decoding.step { text := below 0x80 text } = some reader := by
  have hstart : Decoding.KeepsUp { text := below 0x80 text } (below 0x80 text)
      ⟨[], 0, firstBias, (below 0x80 text).length⟩ 0x80 [] text :=
    { read := rfl, text := rfl, placed := rfl, bias := rfl, number := rfl, weight := rfl
      position := rfl, first := by simp, least := Nat.le_refl _, delta := by simp [below]
      enough := Nat.le_refl _ }
  refine keepsUp_encodeValues hstart (pairwise_valuesOf text) ?_ ?_
  · exact fun value hvalue => (mem_valuesOf.mp hvalue).1
  · exact fun c hc hle => mem_valuesOf.mpr ⟨hle, c, hc, rfl⟩

/-- A character of a number: a small letter or a digit. -/
def isDigitChar (c : Char) : Bool := ('a' ≤ c && c ≤ 'z') || ('0' ≤ c && c ≤ '9')

theorem isDigitChar_digit {value : Nat} (h : value < 36) : isDigitChar (digit value) = true := by
  have hall : ∀ value < 36, isDigitChar (digit value) = true := by decide
  exact hall value h

theorem isDigitChar_of_mem_encodeNumber {bias position number : Nat} {c : Char}
    (h : c ∈ encodeNumber bias position number) : isDigitChar c = true := by
  induction number using Nat.strongRecOn generalizing position with
  | ind number ih =>
    have hleast := threshold_pos bias position
    have hmost := threshold_le bias position
    rw [encodeNumber] at h
    split at h
    · obtain rfl := List.mem_singleton.mp h
      exact isDigitChar_digit (by omega)
    · have hdigit := Nat.mod_lt (number - threshold bias position)
        (show 0 < 36 - threshold bias position by omega)
      rcases List.mem_cons.mp h with rfl | h
      · exact isDigitChar_digit (by omega)
      · exact ih _ (Nat.lt_of_le_of_lt (Nat.div_le_self _ _) (by omega)) h

theorem isDigitChar_of_mem_pass {basic code : Nat} {writer : Encoding} {c d : Char}
    (h : ∀ c ∈ writer.written, isDigitChar c = true) (hd : d ∈ (writer.pass basic code c).written) :
    isDigitChar d = true := by
  unfold Encoding.pass at hd
  split at hd
  · exact h d hd
  · split at hd
    · rcases List.mem_append.mp hd with hd | hd
      · exact isDigitChar_of_mem_encodeNumber (List.mem_reverse.mp hd)
      · exact h d hd
    · exact h d hd

theorem isDigitChar_of_mem_encodeValues {text : List Char} {basic code : Nat} {values : List Nat}
    {writer : Encoding} (h : ∀ c ∈ writer.written, isDigitChar c = true) :
    ∀ c ∈ (encodeValues text basic code values writer).written, isDigitChar c = true := by
  induction values generalizing code writer with
  | nil => exact h
  | cons value values ih =>
    refine ih ?_
    have hfold : ∀ (chars : List Char) (writer : Encoding),
        (∀ c ∈ writer.written, isDigitChar c = true) →
        ∀ c ∈ (chars.foldl (Encoding.pass basic value) writer).written, isDigitChar c = true := by
      intro chars
      induction chars with
      | nil => exact fun writer h => h
      | cons c rest ihChars =>
        exact fun writer h => ihChars _ fun d hd => isDigitChar_of_mem_pass h hd
    exact hfold text _ h

theorem isDigitChar_of_mem_digitsOf {text : List Char} {c : Char} (h : c ∈ digitsOf text) :
    isDigitChar c = true :=
  isDigitChar_of_mem_encodeValues (by simp) c (List.mem_reverse.mp h)

theorem encode_eq (text : List Char) :
    encode text = if (below 0x80 text).isEmpty then digitsOf text
      else below 0x80 text ++ '-' :: digitsOf text := by
  unfold encode digitsOf below
  simp only
  split
  · rename_i hempty
    rw [List.isEmpty_iff.mp hempty, List.nil_append]
  · rfl

/-- The last hyphen is the one between the ASCII characters and the digits. -/
theorem splitEncoded_encode (text : List Char) :
    splitEncoded (encode text) = (below 0x80 text, digitsOf text) := by
  have hkept : ∀ c ∈ (digitsOf text).reverse, (c != '-') = true := by
    intro c hc
    have hdigit := isDigitChar_of_mem_digitsOf (List.mem_reverse.mp hc)
    refine bne_iff_ne.mpr ?_
    rintro rfl
    exact absurd hdigit (by decide)
  rw [encode_eq]
  unfold splitEncoded
  split
  · rename_i hempty
    have htake : (digitsOf text).reverse.takeWhile (· != '-') = (digitsOf text).reverse := by
      have hall : ((digitsOf text).reverse ++ []).takeWhile (· != '-') =
          (digitsOf text).reverse ++ [].takeWhile (· != '-') := List.takeWhile_append_of_pos hkept
      simpa using hall
    simp only [htake, List.reverse_reverse, Nat.sub_self, Nat.zero_sub, List.take_zero,
      List.isEmpty_nil, if_true, List.isEmpty_iff.mp hempty]
  · rename_i hempty
    have htake : (below 0x80 text ++ '-' :: digitsOf text).reverse.takeWhile (· != '-') =
        (digitsOf text).reverse := by
      rw [List.reverse_append, List.reverse_cons, List.append_assoc,
        List.takeWhile_append_of_pos hkept]
      simp
    have hlength : (below 0x80 text ++ '-' :: digitsOf text).length - (digitsOf text).length - 1 =
        (below 0x80 text).length := by
      simp only [List.length_append, List.length_cons]
      omega
    simp only [htake, List.reverse_reverse, hlength, List.take_left, if_neg hempty]

/-- What is written is read back. -/
theorem decode?_encode (text : List Char) : decode? (encode text) = some text := by
  obtain ⟨reader, htext, hposition, hread⟩ := foldlM_digitsOf text
  unfold decode?
  rw [splitEncoded_encode]
  simp [hread, hposition, htext]

end Recrawl.Url.Punycode
