import AttributeQuery.Proofs.Query.Encoding

/-!
# Networks as operands

A literal denotes an address and how many of its leading bits name a network. A
network is bound in one spelling, whatever the spelling of the literal: literals
are bound as the same text exactly when they denote the same, and the text that
is bound is itself a literal that is bound as that text.
-/

namespace AttributeQuery

/-- The address and the prefix length that a literal denotes. A text spells an
address alone, which denotes all of it, or an address of the notation of
networks, a slash and a prefix length that is neither longer than needed nor
than the address. The bits of an address behind the prefix are part of what is
denoted. -/
inductive Literal.Denotes : Literal → Address → Nat → Prop
  | network (network : Network) :
      Denotes (.inet network) network.address network.prefixLength
  | prefixed (text : String) (spelling digits : List Char) (address : Address)
      (length : Nat) (spelled : text.toList = spelling ++ '/' :: digits)
      (isAddress : Address.read? .network spelling = some address)
      (isLength : Text.Numeral.decimalValue? digits = some length)
      (short : digits.length ≤ address.prefixDigits)
      (fits : length ≤ address.width) :
      Denotes (.string text) address length
  | alone (text : String) (address : Address)
      (isAddress : Address.read? .bare text.toList = some address) :
      Denotes (.string text) address address.width

namespace Network

/-- A text with a prefix length is read as its address and that length. -/
theorem ofText?_eq_some_iff {text : String} {network : Network} :
    ofText? text = some network ↔
      ∃ spelling digits, text.toList = spelling ++ '/' :: digits ∧
        Address.read? .network spelling = some network.address ∧
        Text.Numeral.decimalValue? digits = some network.prefixLength ∧
        digits.length ≤ network.address.prefixDigits := by
  simp only [ofText?, withPrefix?, Option.bind_eq_bind, Option.bind_eq_some_iff]
  constructor
  · rintro ⟨⟨spelling, digits⟩, isSplit, address, isAddress, length,
      isLength, made⟩
    split at made
    next short =>
      split at made
      next fits =>
        obtain rfl := Option.some.inj made
        exact ⟨spelling, digits, splitSlash?_eq_some isSplit, isAddress,
          isLength, short⟩
      next => cases made
    next => cases made
  · rintro ⟨spelling, digits, spelled, isAddress, isLength, short⟩
    have noSlash : '/' ∉ spelling := by
      intro slash
      rw [Address.read?_eq_none (by decide) (by decide)
        (by decide) slash] at isAddress
      cases isAddress
    refine ⟨(spelling, digits), ?_, network.address, isAddress,
      network.prefixLength, isLength, ?_⟩
    · rw [spelled, splitSlash?_append noSlash]
    · rw [if_pos short, dif_pos network.prefixLength_le_width]
      rfl

/-- A network is read from the texts that denote it. -/
theorem read?_eq_some_iff {text : String} {network : Network} :
    read? text = some network ↔
      (Literal.string text).Denotes network.address network.prefixLength := by
  constructor
  · intro isRead
    rw [read?, Option.or_eq_some_iff] at isRead
    rcases isRead with isPrefixed | ⟨-, isAlone⟩
    · obtain ⟨spelling, digits, spelled, isAddress, isLength, short⟩ :=
        ofText?_eq_some_iff.mp isPrefixed
      exact .prefixed text spelling digits _ _ spelled isAddress isLength short
        network.prefixLength_le_width
    · obtain ⟨address, isAddress, rfl⟩ := Option.map_eq_some_iff.mp isAlone
      exact .alone text address isAddress
  · intro denotes
    obtain ⟨address, prefixLength, _⟩ := network
    dsimp only at denotes
    cases denotes with
    | prefixed _ spelling digits _ _ spelled isAddress isLength short fits =>
        have isPrefixed : ofText? text = some ⟨address, prefixLength, fits⟩ :=
          ofText?_eq_some_iff.mpr
            ⟨spelling, digits, spelled, isAddress, isLength, short⟩
        rw [read?, isPrefixed, Option.some_or]
    | alone _ _ isAddress =>
        -- An address alone has no slash, so it is not read with a prefix
        -- length.
        have noSlash : '/' ∉ text.toList := by
          intro slash
          rw [Address.read?_eq_none (by decide) (by decide)
            (by decide) slash] at isAddress
          cases isAddress
        have notPrefixed : ofText? text = none := by
          rw [ofText?, splitSlash?_eq_none noSlash]
          rfl
        rw [read?, notPrefixed, Option.none_or, isAddress]
        rfl

/-- A text that is read as a network has no characters that cannot be
inlined. -/
theorem fault?_of_read? {text : String} {network : Network}
    (isRead : read? text = some network) :
    Text.Inlinable.fault? text.toList = none := by
  have spelled {rules : AddressRules} {spelling : List Char} {address : Address}
      {char : Char} (isAddress : Address.read? rules spelling = some address)
      (notDot : char ≠ '.') (notColon : char ≠ ':')
      (notDigit : Text.Ascii.hexDigitValue? char = none) :
      char ∉ spelling := by
    intro member
    rw [Address.read?_eq_none notColon notDigit notDot member] at isAddress
    cases isAddress
  have notIn {char : Char} (notDot : char ≠ '.') (notColon : char ≠ ':')
      (notSlash : char ≠ '/')
      (notDigit : Text.Ascii.hexDigitValue? char = none) : char ∉
        text.toList := by
    obtain ⟨address, prefixLength, _⟩ := network
    have denotes : (Literal.string text).Denotes address prefixLength :=
      read?_eq_some_iff.mp isRead
    cases denotes with
    | prefixed _ spelling digits _ _ isText isAddress isLength _ _ =>
        have notInDigits : char ∉ digits := by
          intro member
          have isDigit :=
            Text.Numeral.isDigit_of_mem_of_decimalValue? isLength member
          rw [Address.isDigit_eq_false notDigit] at isDigit
          cases isDigit
        rw [isText]
        simp [spelled isAddress notDot notColon notDigit, notSlash, notInDigits]
    | alone _ _ isAddress => exact spelled isAddress notDot notColon notDigit
  exact Text.Inlinable.fault?_eq_none
    (notIn (by decide) (by decide) (by decide) (by decide))
    (notIn (by decide) (by decide) (by decide) (by decide))

end Network

section Encoding

variable {id : AttributeId}

/-- What is bound for a network is the shortest text of the network that the
literal denotes, and nothing is bound for a literal that denotes none. -/
theorem encodeValue_inet_eq_ok {literal : Literal} {value : SqlValue} :
    encodeValue id .inet literal = .ok value ↔
      ∃ network : Network,
        literal.Denotes network.address network.prefixLength ∧
        value = .text network.canonicalText := by
  cases literal with
  | inet network =>
      simp only [encodeValue, Except.ok.injEq]
      constructor
      · rintro rfl
        exact ⟨network, .network network, rfl⟩
      · rintro ⟨⟨address, prefixLength, _⟩, denotes, rfl⟩
        dsimp only at denotes
        cases denotes
        rfl
  | string text =>
      have encode : encodeValue id .inet (.string text) = .ok value ↔
          requireInlinable text = .ok () ∧
            ∃ network, Network.read? text = some network ∧
              value = .text network.canonicalText := by
        simp only [encodeValue, check_bind_eq_ok]
        cases Network.read? text with
        | none => simp
        | some network => simp [eq_comm]
      simp only [encode, Network.read?_eq_some_iff]
      constructor
      · exact And.right
      · rintro ⟨network, denotes, isText⟩
        have inlinable :=
          Network.fault?_of_read? (Network.read?_eq_some_iff.mpr denotes)
        exact ⟨requireInlinable_eq_ok.mpr inlinable, network, denotes, isText⟩
  | _ =>
      simp only [encodeValue, reduceCtorEq, false_iff, not_exists]
      rintro network ⟨denotes, -⟩
      cases denotes

/-- What is denoted is a network: the prefix is not longer than the address. -/
theorem Literal.Denotes.length_le_width {literal : Literal} {address : Address}
    {length : Nat} (denotes : literal.Denotes address length) :
    length ≤ address.width := by
  cases denotes with
  | network network => exact network.prefixLength_le_width
  | prefixed _ _ _ _ _ _ _ _ _ fits => exact fits
  | alone _ _ _ => exact Nat.le_refl _

/-- A literal denotes one address and one prefix length at most. -/
theorem Literal.Denotes.unique {literal : Literal} {network other : Network}
    (denotes : literal.Denotes network.address network.prefixLength)
    (denotesOther : literal.Denotes other.address other.prefixLength) :
    network = other := by
  cases literal with
  | inet given =>
      obtain ⟨_, _, _⟩ := network
      obtain ⟨_, _, _⟩ := other
      dsimp only at denotes denotesOther
      cases denotes
      cases denotesOther
      rfl
  | string text =>
      have isRead := Network.read?_eq_some_iff.mpr denotes
      rw [Network.read?_eq_some_iff.mpr denotesOther] at isRead
      exact (Option.some.inj isRead).symm
  | _ => cases denotes

/-- A literal is bound for a network exactly when it denotes an address and a
prefix length, of which it denotes no others. Then two literals are bound as the
same value exactly when they denote the same, and what is bound is a text that,
as a literal, is bound as itself. -/
theorem encodeValue_inet_canonical (id otherId : AttributeId)
    (literal other : Literal) :
    ((∃ value, encodeValue id .inet literal = .ok value) ↔
      ∃ address length, literal.Denotes address length ∧
        ∀ otherAddress otherLength, literal.Denotes otherAddress otherLength →
          otherAddress = address ∧ otherLength = length) ∧
    ∀ value otherValue, encodeValue id .inet literal = .ok value →
      encodeValue otherId .inet other = .ok otherValue →
      (value = otherValue ↔
        ∃ address length, literal.Denotes address length ∧
          other.Denotes address length) ∧
      ∃ text, value = .text text ∧ encodeValue id .inet (.string text) =
        .ok value := by
  constructor
  · constructor
    · rintro ⟨value, encoded⟩
      obtain ⟨network, denotes, -⟩ := encodeValue_inet_eq_ok.mp encoded
      refine ⟨_, _, denotes, fun otherAddress otherLength denotesOther => ?_⟩
      have fits := denotesOther.length_le_width
      have same : ⟨otherAddress, otherLength, fits⟩ = network :=
        Literal.Denotes.unique denotesOther denotes
      subst same
      exact ⟨rfl, rfl⟩
    · rintro ⟨address, length, denotes, -⟩
      exact ⟨_, encodeValue_inet_eq_ok.mpr
        ⟨⟨address, length, denotes.length_le_width⟩, denotes, rfl⟩⟩
  · intro value otherValue encoded encodedOther
    obtain ⟨network, denotes, rfl⟩ := encodeValue_inet_eq_ok.mp encoded
    obtain ⟨otherNetwork, denotesOther, rfl⟩ :=
      encodeValue_inet_eq_ok.mp encodedOther
    constructor
    · constructor
      · intro sameText
        obtain rfl := Network.canonicalText_inj.mp (SqlValue.text.inj sameText)
        exact ⟨_, _, denotes, denotesOther⟩
      · rintro ⟨address, length, shared, sharedOther⟩
        have fits := shared.length_le_width
        have isShared : network = ⟨address, length, fits⟩ :=
          denotes.unique shared
        have isSharedOther : otherNetwork = ⟨address, length, fits⟩ :=
          denotesOther.unique sharedOther
        rw [isShared, isSharedOther]
    · exact ⟨network.canonicalText, rfl, encodeValue_inet_eq_ok.mpr
        ⟨network,
          Network.read?_eq_some_iff.mp network.read?_canonicalText, rfl⟩⟩

/-- An address denotes the same as its network of one address in another
spelling, and not the same as the network around it. -/
theorem encodeValue_inet_canonical_host :
    let host : Literal := .string "2001:0db8:0:0::1"
    let single : Literal := .string "2001:DB8::0001/128"
    let wide : Literal := .string "2001:db8::1/64"
    (∃ address length, host.Denotes address length ∧
      single.Denotes address length) ∧
    ¬(∃ address length, host.Denotes address length ∧
      wide.Denotes address length) ∧
    ∃ text, SqlValue.text "2001:db8::1" = .text text ∧
      encodeValue "gateway" .inet (.string text) =
        .ok (.text "2001:db8::1") := by
  intro host single wide
  have encoded : encodeValue "gateway" .inet host =
      .ok (.text "2001:db8::1") := by
    decide +kernel
  have encodedSingle : encodeValue "address" .inet single =
      .ok (.text "2001:db8::1") := by
    decide +kernel
  have encodedWide : encodeValue "address" .inet wide =
      .ok (.text "2001:db8::1/64") := by
    decide +kernel
  obtain ⟨-, agree⟩ :=
    encodeValue_inet_canonical "gateway" "address" host single
  obtain ⟨-, agreeWide⟩ :=
    encodeValue_inet_canonical "gateway" "address" host wide
  obtain ⟨same, again⟩ := agree _ _ encoded encodedSingle
  obtain ⟨sameWide, -⟩ := agreeWide _ _ encoded encodedWide
  refine ⟨same.mp rfl, fun shared => ?_, again⟩
  exact absurd (sameWide.mpr shared) (by decide)

end Encoding

end AttributeQuery
