import Mathlib
import RewardSystem.PredictionMarket.ChainlinkFeed

/-!
# The value of a Chainlink answer

The answer of a feed passes through hexadecimal words, two's complement and decimal text before it
is compared. The outcome is the one of the exact value.
-/

namespace RewardSystem.PredictionMarket

def NumericOperator.Holds : NumericOperator → ℚ → ℚ → Prop
  | .gt, x, y => y < x
  | .gte, x, y => y ≤ x
  | .lt, x, y => x < y
  | .lte, x, y => x ≤ y
  | .eq, x, y => x = y
  | .neq, x, y => x ≠ y

instance (operator : NumericOperator) (x y : ℚ) : Decidable (operator.Holds x y) :=
  match operator with
  | .gt => inferInstanceAs (Decidable (y < x))
  | .gte => inferInstanceAs (Decidable (y ≤ x))
  | .lt => inferInstanceAs (Decidable (x < y))
  | .lte => inferInstanceAs (Decidable (x ≤ y))
  | .eq => inferInstanceAs (Decidable (x = y))
  | .neq => inferInstanceAs (Decidable (x ≠ y))

def NumericComparison.outcomeAt (comparison : NumericComparison) (value threshold : ℚ) : String :=
  if comparison.operator.Holds value threshold then comparison.outcomeKeyIfTrue
  else comparison.outcomeKeyIfFalse

/-- A response of words of 32 bytes, without its `0x`. -/
structure IsResponse (digits : List Char) : Prop where
  hex : ∀ c ∈ digits, (HexText.digitValue c).isSome
  words : digits.length % 64 = 0

/-- The second word of a response, read as a two's complement number of 256 bits. -/
def answerOf (digits : List Char) : Option Int :=
  (hexValue ((digits.drop 64).take 64)).map fun value => (BitVec.ofNat 256 value).toInt

/-! ## Words -/

section Words

variable {c : Char} {pending text digits : List Char}

theorem not_isLineTerminator (h : (HexText.digitValue c).isSome) : isLineTerminator c = false := by
  obtain ⟨value, hvalue⟩ := Option.isSome_iff_exists.mp h
  have hrange := HexText.digitValue_eq_some hvalue
  simp [isLineTerminator]
  omega

theorem not_isJsWhitespace (h : (HexText.digitValue c).isSome) : isJsWhitespace c = false := by
  obtain ⟨value, hvalue⟩ := Option.isSome_iff_exists.mp h
  have hrange := HexText.digitValue_eq_some hvalue
  simp [isJsWhitespace]
  omega

theorem matchWords_eq_cons (hpending : pending.length < 64)
    (htext : 64 ≤ pending.length + text.length) (hhex : ∀ c ∈ text, (HexText.digitValue c).isSome) :
    matchWords pending text = (pending ++ text.take (64 - pending.length)) ::
      matchWords [] (text.drop (64 - pending.length)) := by
  induction text generalizing pending with
  | nil =>
      rw [List.length_nil] at htext
      omega
  | cons c text ih =>
      rw [List.length_cons] at htext
      rw [matchWords, not_isLineTerminator (hhex c List.mem_cons_self), if_neg Bool.false_ne_true]
      by_cases hlast : pending.length + 1 = 64
      · have hone : 64 - pending.length = 1 := by omega
        rw [if_pos hlast, hone]
        rfl
      · have hmore : 64 - pending.length = (64 - (pending ++ [c]).length) + 1 := by
          rw [List.length_append, List.length_singleton]
          omega
        rw [if_neg hlast, hmore, List.take_succ_cons, List.drop_succ_cons,
          ih (by simp; omega) (by simp; omega) fun d hd => hhex d (List.mem_cons_of_mem _ hd),
          List.append_assoc, List.singleton_append]

theorem matchWords_getElem? (hhex : ∀ c ∈ text, (HexText.digitValue c).isSome) {i : Nat}
    (h : 64 * (i + 1) ≤ text.length) :
    (matchWords [] text)[i]? = some ((text.drop (64 * i)).take 64) := by
  induction i generalizing text with
  | zero =>
      rw [matchWords_eq_cons (by decide) (by simpa using h) hhex]
      rfl
  | succ i ih =>
      rw [matchWords_eq_cons (by decide) (by simp; omega) hhex, List.getElem?_cons_succ,
        ih (fun c hc => hhex c (List.mem_of_mem_drop hc)) (by simp; omega), List.drop_drop]
      simp only [List.length_nil, Nat.sub_zero]
      congr 3
      ring

theorem length_matchWords_le (hpending : pending.length < 64) :
    64 * (matchWords pending text).length ≤ pending.length + text.length := by
  induction text generalizing pending with
  | nil => simp [matchWords]
  | cons c text ih =>
      have hnil := @ih [] (by decide)
      rw [List.length_nil] at hnil
      rw [matchWords, List.length_cons]
      split_ifs with hterminator hlast
      · omega
      · rw [List.length_cons]
        omega
      · have hmore := @ih (pending ++ [c]) (by rw [List.length_append]; simp; omega)
        rw [List.length_append, List.length_singleton] at hmore
        omega

theorem hexValue_eq_some (hhex : ∀ c ∈ digits, (HexText.digitValue c).isSome) :
    ∃ value, hexValue digits = some value ∧ value < 16 ^ digits.length := by
  have hvalues : ∃ values, digits.mapM HexText.digitValue = some values ∧
      values.length = digits.length ∧ ∀ value ∈ values, value < 16 := by
    induction digits with
    | nil => exact ⟨[], rfl, rfl, fun _ h => nomatch h⟩
    | cons c digits ih =>
        obtain ⟨value, hvalue⟩ := Option.isSome_iff_exists.mp (hhex c List.mem_cons_self)
        obtain ⟨values, hmap, hlength, hlt⟩ :=
          ih fun d hd => hhex d (List.mem_cons_of_mem _ hd)
        refine ⟨value :: values, by simp [hvalue, hmap], by simp [hlength], ?_⟩
        rintro other (_ | ⟨_, hother⟩)
        · exact (HexText.digitValue_eq_some hvalue).1
        · exact hlt other hother
  obtain ⟨values, hmap, hlength, hlt⟩ := hvalues
  refine ⟨_, by rw [hexValue, hmap]; rfl, ?_⟩
  rw [← hlength, ← values.length_reverse]
  exact Nat.ofDigits_lt_base_pow_length (by decide) fun value hvalue =>
    hlt value (List.mem_reverse.mp hvalue)

theorem decodeUintWord_eq_ok (hne : digits ≠ [])
    (hhex : ∀ c ∈ digits, (HexText.digitValue c).isSome) {value : Nat}
    (hvalue : hexValue digits = some value) : decodeUintWord digits = .ok value := by
  have hkept : (digits.reverse.dropWhile isJsWhitespace).reverse = digits := by
    obtain ⟨last, front, hrev⟩ := List.exists_cons_of_ne_nil (List.reverse_ne_nil_iff.mpr hne)
    have hlast : last ∈ digits := List.mem_reverse.mp (hrev ▸ List.mem_cons_self)
    rw [hrev, List.dropWhile_cons, not_isJsWhitespace (hhex last hlast), if_neg Bool.false_ne_true,
      ← hrev, List.reverse_reverse]
  rw [decodeUintWord, hkept]
  cases digits with
  | nil => exact absurd rfl hne
  | cons c digits =>
      change (hexValue (c :: digits)).elim _ _ = _
      rw [hvalue]
      rfl

theorem decodeIntWord_eq_ok (hlength : digits.length = 64)
    (hhex : ∀ c ∈ digits, (HexText.digitValue c).isSome) {value : Nat}
    (hvalue : hexValue digits = some value) :
    decodeIntWord digits = .ok (BitVec.ofNat 256 value).toInt := by
  have hne : digits ≠ [] := List.ne_nil_of_length_pos (by omega)
  obtain ⟨same, hsame, hlt⟩ := hexValue_eq_some hhex
  obtain rfl := Option.some.inj (hvalue.symm.trans hsame)
  rw [hlength] at hlt
  have hword : (BitVec.ofNat 256 value).toInt =
      if 2 ^ 255 ≤ value then (value : Int) - 2 ^ 256 else (value : Int) := by
    rw [BitVec.toInt_eq_toNat_cond, BitVec.toNat_ofNat, Nat.mod_eq_of_lt (by omega)]
    by_cases hneg : 2 ^ 255 ≤ value
    · rw [if_pos hneg, if_neg (by omega)]
      norm_num
    · rw [if_neg hneg, if_pos (by omega)]
  unfold decodeIntWord
  rw [decodeUintWord_eq_ok hne hhex hvalue, hword]
  rfl

theorem IsResponse.word (h : IsResponse digits) {i : Nat} (hi : 64 * (i + 1) ≤ digits.length) :
    ∃ word value, (matchWords [] digits)[i]? = some word ∧
      word = (digits.drop (64 * i)).take 64 ∧ hexValue word = some value ∧
      decodeUintWord word = .ok value ∧
      decodeIntWord word = .ok (BitVec.ofNat 256 value).toInt := by
  have hhex : ∀ c ∈ (digits.drop (64 * i)).take 64, (HexText.digitValue c).isSome :=
    fun c hc => h.hex c (List.mem_of_mem_drop (List.mem_of_mem_take hc))
  have hlength : ((digits.drop (64 * i)).take 64).length = 64 := by
    rw [List.length_take, List.length_drop]
    omega
  obtain ⟨value, hvalue, -⟩ := hexValue_eq_some hhex
  exact ⟨_, value, matchWords_getElem? h.hex hi, rfl, hvalue,
    decodeUintWord_eq_ok (List.ne_nil_of_length_pos (by omega)) hhex hvalue,
    decodeIntWord_eq_ok hlength hhex hvalue⟩

theorem parseWords_eq_ok (h : IsResponse digits) (hlength : 64 ≤ digits.length) :
    parseWords ('0' :: 'x' :: digits) = .ok (matchWords [] digits) := by
  have hwords := h.words
  rw [parseWords]
  exact if_neg (by omega)

theorem decodeChainlinkRoundData_eq_ok (h : IsResponse digits) (hlength : 320 ≤ digits.length) :
    ∃ round, decodeChainlinkRoundData ('0' :: 'x' :: digits) = .ok round ∧
      answerOf digits = some round.answer := by
  obtain ⟨word₀, value₀, hget₀, -, -, hdecode₀, -⟩ := h.word (i := 0) (by omega)
  obtain ⟨word₁, value₁, hget₁, hword₁, hvalue₁, -, hdecode₁⟩ := h.word (i := 1) (by omega)
  obtain ⟨word₂, value₂, hget₂, -, -, hdecode₂, -⟩ := h.word (i := 2) (by omega)
  obtain ⟨word₃, value₃, hget₃, -, -, hdecode₃, -⟩ := h.word (i := 3) (by omega)
  obtain ⟨word₄, value₄, hget₄, -, -, hdecode₄, -⟩ := h.word (i := 4) (by omega)
  have hfew : ¬ (matchWords [] digits).length < 5 := by
    have hfifth := (List.getElem?_eq_some_iff.mp hget₄).1
    omega
  refine ⟨⟨value₀, (BitVec.ofNat 256 value₁).toInt, value₂, value₃, value₄⟩, ?_, ?_⟩
  · unfold decodeChainlinkRoundData
    rw [parseWords_eq_ok h (by omega)]
    simp only [bind, Except.bind, pure, Except.pure, List.getD_eq_getElem?_getD, hfew, if_false,
      hget₀, hget₁, hget₂, hget₃, hget₄, Option.getD_some, hdecode₀, hdecode₁, hdecode₂, hdecode₃,
      hdecode₄]
  · rw [answerOf, ← hword₁, hvalue₁]
    rfl

end Words

/-! ## Text -/

theorem formatSignedFixed_toList (value : Int) (decimals : Nat) :
    (formatSignedFixed value decimals).toList = DecimalText.print decimals value := by
  have hunsigned : ∀ n : Nat,
      (toString (n / 10 ^ decimals) ++
        if decimals = 0 then ""
        else "." ++ padStart (toString (n % 10 ^ decimals)) decimals '0').toList =
          DecimalText.printUnsigned decimals n := by
    intro n
    rw [DecimalText.printUnsigned, String.toList_append]
    split <;> simp [padStart, DecimalText.padded]
  rw [DecimalText.print, ← hunsigned]
  simp only [formatSignedFixed]
  split <;> simp [String.append_assoc]

theorem read_formatSignedFixed (value : Int) (decimals : Nat) :
    DecimalText.read (formatSignedFixed value decimals).toList =
      some ((value : ℚ) / 10 ^ decimals) := by
  rw [formatSignedFixed_toList, DecimalText.read_print]

theorem formatSignedFixed_injective (decimals : Nat) :
    Function.Injective fun value => formatSignedFixed value decimals := by
  intro value other h
  have hlists := congrArg String.toList h
  simp only [formatSignedFixed_toList] at hlists
  exact DecimalText.print_injective decimals hlists

example : formatSignedFixed (-5) 2 = "-0.05" ∧ formatSignedFixed (-500) 2 = "-5.00" ∧
    formatSignedFixed (-5) 0 = "-5" := by decide

/-! ## The outcome -/

variable (reader : DecimalReader)

theorem evaluateNumericComparison_eq {comparison : NumericComparison} {text : String}
    {value threshold : ℚ} (htext : DecimalText.read text.toList = some value)
    (hthreshold : reader.toDecimal comparison.threshold = .ok (.finite threshold)) :
    evaluateNumericComparison reader comparison text =
      .ok (comparison.outcomeAt value threshold) := by
  unfold evaluateNumericComparison
  rw [reader.toDecimal_text text value htext, hthreshold]
  have hgte : threshold ≤ value ↔ threshold < value ∨ value = threshold := by
    rw [le_iff_lt_or_eq, eq_comm]
  have hlte : value ≤ threshold ↔ value < threshold ∨ value = threshold := le_iff_lt_or_eq
  simp only [bind, Except.bind, pure, Except.pure, cmpDecimal]
  refine congrArg Except.ok (if_congr ?_ rfl rfl)
  cases comparison.operator <;> simp [NumericOperator.Holds, hgte, hlte]

/-- The decoding of a feed: the outcome is the one of the exact value, the text denotes it and is
different for different answers, and what is not made of words is rejected. -/
structure ChainlinkDecoding (reader : DecimalReader) : Prop where
  outcome : ∀ digits, IsResponse digits → 320 ≤ digits.length →
    ∃ round answer, decodeChainlinkRoundData ('0' :: 'x' :: digits) = .ok round ∧
      answerOf digits = some answer ∧
      ∀ decimals comparison threshold,
        reader.toDecimal comparison.threshold = .ok (.finite threshold) →
          evaluateNumericComparison reader comparison (formatSignedFixed round.answer decimals) =
            .ok (comparison.outcomeAt ((answer : ℚ) / 10 ^ decimals) threshold)
  text_denotes : ∀ value decimals,
    DecimalText.read (formatSignedFixed value decimals).toList =
      some ((value : ℚ) / 10 ^ decimals)
  text_injective : ∀ decimals, Function.Injective fun value => formatSignedFixed value decimals
  rejected : ∀ digits : List Char, digits.length = 0 ∨ digits.length % 64 ≠ 0 →
    decodeChainlinkRoundData ('0' :: 'x' :: digits) =
      .error "Oracle RPC returned malformed ABI data."
  resolved : ∀ toISOString ethCall now market bindingId config digits winningOutcomeKey externalRef
      payload reportedAt,
    ethCall CHAINLINK_LATEST_ROUND_DATA_SELECTOR = .ok ('0' :: 'x' :: digits) →
      IsResponse digits →
      evaluateChainlinkOracle reader toISOString ethCall now market bindingId config =
          .ok (.resolved winningOutcomeKey externalRef payload reportedAt) →
        ∃ decimals answer, feedDecimals ethCall config = .ok decimals ∧
          answerOf digits = some answer ∧
          ∀ threshold, reader.toDecimal config.comparison.threshold = .ok (.finite threshold) →
            winningOutcomeKey =
              config.comparison.outcomeAt ((answer : ℚ) / 10 ^ decimals) threshold

theorem decodeChainlinkRoundData_malformed {digits : List Char}
    (h : digits.length = 0 ∨ digits.length % 64 ≠ 0) :
    decodeChainlinkRoundData ('0' :: 'x' :: digits) =
      .error "Oracle RPC returned malformed ABI data." := by
  have hparse : parseWords ('0' :: 'x' :: digits) =
      .error "Oracle RPC returned malformed ABI data." := by
    rw [parseWords]
    exact if_pos h
  unfold decodeChainlinkRoundData
  rw [hparse]
  rfl

theorem except_bind_eq_ok {ε α β : Type} {x : Except ε α} {f : α → Except ε β} {b : β} :
    x >>= f = .ok b ↔ ∃ a, x = .ok a ∧ f a = .ok b := by
  cases x <;> simp [bind, Except.bind]

theorem length_of_decodeChainlinkRoundData {digits : List Char} {round : RoundData}
    (h : decodeChainlinkRoundData ('0' :: 'x' :: digits) = .ok round) : 320 ≤ digits.length := by
  unfold decodeChainlinkRoundData at h
  obtain ⟨words, hwords, h⟩ := except_bind_eq_ok.mp h
  have hmatch : words = matchWords [] digits := by
    rw [parseWords] at hwords
    split_ifs at hwords
    exact (Except.ok.inj hwords).symm
  have hlength := @length_matchWords_le [] digits (by decide)
  rw [List.length_nil, ← hmatch] at hlength
  by_contra hshort
  rw [if_pos (by omega)] at h
  exact nomatch h

theorem resolved_by_comparison {toISOString : Nat → String}
    {ethCall : String → Except String (List Char)} {now : Nat} {market : MarketSnapshot}
    {bindingId : Nat} {config : ChainlinkConfig} {winningOutcomeKey externalRef : String}
    {payload : ChainlinkPayload} {reportedAt : Nat}
    (h : evaluateChainlinkOracle reader toISOString ethCall now market bindingId config =
      .ok (.resolved winningOutcomeKey externalRef payload reportedAt)) :
    ∃ decimals response round, feedDecimals ethCall config = .ok decimals ∧
      ethCall CHAINLINK_LATEST_ROUND_DATA_SELECTOR = .ok response ∧
      decodeChainlinkRoundData response = .ok round ∧
      evaluateNumericComparison reader config.comparison
        (formatSignedFixed round.answer decimals) = .ok winningOutcomeKey := by
  unfold evaluateChainlinkOracle at h
  obtain ⟨decimals, hdecimals, h⟩ := except_bind_eq_ok.mp h
  obtain ⟨response, hresponse, h⟩ := except_bind_eq_ok.mp h
  obtain ⟨round, hround, h⟩ := except_bind_eq_ok.mp h
  obtain ⟨startedAt, -, h⟩ := except_bind_eq_ok.mp h
  obtain ⟨updatedAt, -, h⟩ := except_bind_eq_ok.mp h
  refine ⟨decimals, response, round, hdecimals, hresponse, hround, ?_⟩
  dsimp only at h
  split_ifs at h
  · exact nomatch Except.ok.inj h
  · exact nomatch Except.ok.inj h
  · obtain ⟨key, hkey, h⟩ := except_bind_eq_ok.mp h
    injection Except.ok.inj h with hsame
    rw [hkey, hsame]

/-- The outcome of a feed is the one of the exact value of its answer. -/
theorem chainlink_decoding : ChainlinkDecoding reader where
  outcome digits hresponse hlength := by
    obtain ⟨round, hround, hanswer⟩ := decodeChainlinkRoundData_eq_ok hresponse hlength
    exact ⟨round, round.answer, hround, hanswer, fun decimals comparison threshold hthreshold =>
      evaluateNumericComparison_eq reader (read_formatSignedFixed round.answer decimals) hthreshold⟩
  text_denotes := read_formatSignedFixed
  text_injective := formatSignedFixed_injective
  rejected _ := decodeChainlinkRoundData_malformed
  resolved toISOString ethCall now market bindingId config digits winningOutcomeKey externalRef
      payload reportedAt hcall hresponse h := by
    obtain ⟨decimals, response, round, hdecimals, hsame, hround, hkey⟩ :=
      resolved_by_comparison reader h
    obtain rfl := Except.ok.inj (hcall.symm.trans hsame)
    obtain ⟨decoded, hdecoded, hanswer⟩ :=
      decodeChainlinkRoundData_eq_ok hresponse (length_of_decodeChainlinkRoundData hround)
    obtain rfl := Except.ok.inj (hround.symm.trans hdecoded)
    refine ⟨decimals, round.answer, hdecimals, hanswer, fun threshold hthreshold => ?_⟩
    rw [evaluateNumericComparison_eq reader (read_formatSignedFixed round.answer decimals)
      hthreshold] at hkey
    exact (Except.ok.inj hkey).symm

def plainReader : DecimalReader where
  toDecimal text :=
    (DecimalText.read text.toList).elim (.error "[DecimalError] Invalid argument") fun value =>
      .ok (.finite value)
  toDecimal_text text value h := by rw [h]; rfl

/-- A feed whose words are all ones answers minus one, which is below zero. -/
theorem outcome_of_ones :
    ∃ round answer,
      decodeChainlinkRoundData ('0' :: 'x' :: List.replicate 320 'f') = .ok round ∧
        answerOf (List.replicate 320 'f') = some answer ∧
        ∀ decimals comparison threshold,
          plainReader.toDecimal comparison.threshold = .ok (.finite threshold) →
            evaluateNumericComparison plainReader comparison
                (formatSignedFixed round.answer decimals) =
              .ok (comparison.outcomeAt ((answer : ℚ) / 10 ^ decimals) threshold) :=
  (chainlink_decoding plainReader).outcome (List.replicate 320 'f')
    ⟨fun c hc => by rw [List.eq_of_mem_replicate hc]; rfl, by rw [List.length_replicate]⟩
    (by rw [List.length_replicate])

end RewardSystem.PredictionMarket
