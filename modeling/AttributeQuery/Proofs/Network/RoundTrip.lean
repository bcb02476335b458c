import AttributeQuery.Network.Reading
import AttributeQuery.Network.Writing
import AttributeQuery.Proofs.Text.Inlinable
import AttributeQuery.Proofs.Text.Numeral

/-!
# Networks read back

A network is written as a text that is read as the same network, whichever
notation its address takes: dotted octets, groups with or without a gap, or four
octets embedded behind a group of ones. What is written for an address is
allowed in the notation of networks and in that of bare addresses.
-/

namespace AttributeQuery.Address

/-! ## Pieces -/

theorem joinChars_eq_intercalate (separator : List Char)
    (texts : List (List Char)) :
    joinChars separator texts = separator.intercalate texts := by
  induction texts with
  | nil => simp [joinChars]
  | cons text rest ih =>
      cases rest with
      | nil => simp [joinChars]
      | cons next later => simp [joinChars, ih]

theorem pieces_eq_splitOn (separator : Char) (chars : List Char) :
    pieces separator chars = chars.splitOn separator := by
  induction chars with
  | nil => simp [pieces]
  | cons char rest ih =>
      unfold List.splitOn at ih ⊢
      rw [pieces, ih, List.splitOnP_cons_eq_if_modifyHead]
      have notEmpty : rest.splitOnP (· == separator) ≠ [] :=
        List.splitOnP_ne_nil _ _
      cases later : rest.splitOnP (· == separator) with
      | nil => exact absurd later notEmpty
      | cons first others => simp

/-- Texts joined with a separator that is in none of them are its pieces. -/
theorem pieces_joinChars {separator : Char} {texts : List (List Char)}
    (isSome : texts ≠ []) (apart : ∀ text ∈ texts, separator ∉ text) :
    pieces separator (joinChars [separator] texts) = texts := by
  rw [pieces_eq_splitOn, joinChars_eq_intercalate,
    List.splitOn_intercalate _ apart isSome]

/-- A character of joined texts is the separator or one of a text. -/
theorem mem_joinChars {separator char : Char} {texts : List (List Char)}
    (member : char ∈ joinChars [separator] texts) :
    char = separator ∨ ∃ text ∈ texts, char ∈ text := by
  induction texts with
  | nil => simp [joinChars] at member
  | cons text rest ih =>
      cases rest with
      | nil => exact .inr ⟨text, List.mem_cons_self, member⟩
      | cons next later =>
          simp only [joinChars, List.mem_append, List.mem_singleton] at member
          rcases member with (inText | isSeparator) | inRest
          · exact .inr ⟨text, List.mem_cons_self, inText⟩
          · exact .inl isSeparator
          · rcases ih inRest with isSeparator | ⟨other, isOther, inOther⟩
            · exact .inl isSeparator
            · exact .inr ⟨other, List.mem_cons_of_mem _ isOther, inOther⟩

/-- A character other than the separator is in one of the pieces. -/
theorem exists_mem_pieces {separator char : Char} {chars : List Char}
    (member : char ∈ chars) (notSeparator : char ≠ separator) :
    ∃ piece ∈ pieces separator chars, char ∈ piece := by
  have joined : joinChars [separator] (pieces separator chars) = chars := by
    rw [joinChars_eq_intercalate, pieces_eq_splitOn, List.intercalate_splitOn]
  rw [← joined] at member
  exact (mem_joinChars member).resolve_left notSeparator

/-! ## Dotted octets -/

/-- The digits of numbers contain no separator. -/
theorem not_mem_toDigits {separator : Char}
    (notDigit : Text.Ascii.hexDigitValue? separator = none) {base : Nat}
    (isBase : 1 < base) (atMost : base ≤ 16) (value : Nat) :
    separator ∉ Nat.toDigits base value := by
  intro member
  have isDigit :=
    Text.Numeral.hexDigitValue?_of_mem_toDigits isBase atMost member
  rw [notDigit] at isDigit
  cases isDigit

/-- The digits of an octet have no leading zeros, so any notation allows
them. -/
theorem octet?_toDigits (rules : AddressRules) (octet : UInt8) :
    octet? rules (Nat.toDigits 10 octet.toNat) = some octet := by
  have bounded := octet.toNat_lt
  have short : (Nat.toDigits 10 octet.toNat).length ≤ 3 :=
    (Nat.length_toDigits_le_iff (by decide) (by decide)).mpr (by omega)
  have noLeadingZero : (Nat.toDigits 10 octet.toNat).length = 1 ∨
      (Nat.toDigits 10 octet.toNat).head? ≠ some '0' := by
    rcases Nat.eq_zero_or_pos octet.toNat with isZero | positive
    · exact .inl (by rw [isZero]; rfl)
    · exact .inr (Text.Numeral.head?_toDigits_ne_zero positive)
  rw [octet?, Text.Numeral.decimalValue?_toDigits]
  simp only [Option.bind_eq_bind, Option.bind_some, UInt8.ofNat_toNat]
  rw [if_pos ⟨short, bounded, .inr noLeadingZero⟩]
  rfl

/-- Dotted octets contain nothing but digits and dots. -/
theorem not_mem_writeOctets {char : Char} (notDot : char ≠ '.')
    (notDigit : Text.Ascii.hexDigitValue? char = none) (octets : List UInt8) :
    char ∉ writeOctets octets := by
  intro member
  rcases mem_joinChars member with isDot | ⟨text, isText, inText⟩
  · exact notDot isDot
  · obtain ⟨octet, -, rfl⟩ := List.mem_map.mp isText
    exact not_mem_toDigits notDigit (by decide) (by decide) _ inText

/-- Values are read back one after the other when each is. -/
theorem mapM_map_eq_some {α β : Type} {read : β → Option α} {write : α → β}
    (readsBack : ∀ value, read (write value) = some value) (values : List α) :
    (values.map write).mapM read = some values := by
  induction values with
  | nil => rfl
  | cons value rest ih => simp [readsBack, ih]

theorem mapM_eq_none {α β : Type} {read : β → Option α} {texts : List β}
    {text : β} (member : text ∈ texts) (fails : read text = none) :
    texts.mapM read = none := by
  induction texts with
  | nil => simp at member
  | cons first rest ih =>
      cases member with
      | head => simp [fails]
      | tail _ member =>
          rw [List.mapM_cons, ih member]
          cases read first <;> rfl

/-- Dotted octets are read back in any notation. -/
theorem octets?_writeOctets (rules : AddressRules)
    (octets : { octets : List UInt8 // octets.length = 4 }) :
    octets? rules (writeOctets octets.val) = some octets := by
  have split : pieces '.' (writeOctets octets.val) =
      octets.val.map fun octet => Nat.toDigits 10 octet.toNat := by
    apply pieces_joinChars
    · intro isEmpty
      have length := octets.property
      simp [List.map_eq_nil_iff.mp isEmpty] at length
    · intro text member
      obtain ⟨octet, -, rfl⟩ := List.mem_map.mp member
      exact not_mem_toDigits (by decide) (by decide) (by decide) _
  rw [octets?, split, mapM_map_eq_some (octet?_toDigits rules)]
  simp [octets.property]

/-- A text with a character that is neither a dot nor a digit is no address in
dotted notation. -/
theorem octets?_eq_none {rules : AddressRules} {chars : List Char} {char : Char}
    (notDot : char ≠ '.') (notDigit : Text.Ascii.isDigit char = false)
    (member : char ∈ chars) :
    octets? rules chars = none := by
  obtain ⟨piece, isPiece, inPiece⟩ := exists_mem_pieces member notDot
  have fails : octet? rules piece = none := by
    cases hasValue : Text.Numeral.decimalValue? piece with
    | none => simp [octet?, hasValue]
    | some value =>
        have isDigit :=
          Text.Numeral.isDigit_of_mem_of_decimalValue? hasValue inPiece
        rw [notDigit] at isDigit
        cases isDigit
  rw [octets?, mapM_eq_none isPiece fails]
  rfl

/-! ## Groups -/

theorem group?_toDigits (group : UInt16) :
    group? (Nat.toDigits 16 group.toNat) = some group := by
  have bounded := group.toNat_lt
  have short : (Nat.toDigits 16 group.toNat).length ≤ 4 :=
    (Nat.length_toDigits_le_iff (by decide) (by decide)).mpr (by omega)
  rw [group?, Text.Numeral.hexValue?_toDigits]
  simp [short]

theorem pieces_writeGroups {groups : List UInt16} (isSome : groups ≠ []) :
    pieces ':' (writeGroups groups) = groups.map fun group =>
      Nat.toDigits 16 group.toNat := by
  apply pieces_joinChars
  · simpa using isSome
  · intro text member
    obtain ⟨group, -, rfl⟩ := List.mem_map.mp member
    exact not_mem_toDigits (by decide) (by decide) (by decide) _

theorem writeGroups_cons_cons (group next : UInt16) (rest : List UInt16) :
    writeGroups (group :: next :: rest) =
      Nat.toDigits 16 group.toNat ++ ':' :: writeGroups (next :: rest) := by
  simp [writeGroups, joinChars]

/-- Written groups start with a digit, if there are any. -/
theorem writeGroups_eq_cons (group : UInt16) (rest : List UInt16) :
    ∃ first later, writeGroups (group :: rest) = first :: later ∧
      first ≠ ':' := by
  have noColon : ':' ∉ Nat.toDigits 16 group.toNat :=
    not_mem_toDigits (by decide) (by decide) (by decide) _
  cases digits : Nat.toDigits 16 group.toNat with
  | nil => exact absurd digits Nat.toDigits_ne_nil
  | cons first others =>
      rw [digits] at noColon
      have notColon : first ≠ ':' := by
        intro isColon
        exact noColon (isColon ▸ List.mem_cons_self)
      cases rest with
      | nil =>
          exact ⟨first, others, by simp [writeGroups, joinChars, digits],
            notColon⟩
      | cons next later =>
          exact ⟨first,
            _, by rw [writeGroups_cons_cons, digits, List.cons_append],
            notColon⟩

theorem groups?_writeGroups (groups : List UInt16) :
    groups? (writeGroups groups) = some groups := by
  cases groups with
  | nil => rfl
  | cons group rest =>
      obtain ⟨first, later, written, -⟩ := writeGroups_eq_cons group rest
      have notEmpty : (writeGroups (group :: rest)).isEmpty = false := by
        rw [written]; rfl
      rw [groups?, notEmpty, pieces_writeGroups (List.cons_ne_nil _ _),
        mapM_map_eq_some group?_toDigits]
      rfl

/-- Groups without octets at their end are read back at the end of an
address. -/
theorem groupsAtEnd?_writeGroups (rules : AddressRules) (groups : List UInt16) :
    groupsAtEnd? rules (writeGroups groups) = some groups := by
  cases groups with
  | nil => rfl
  | cons group rest =>
      obtain ⟨first, later, written, -⟩ := writeGroups_eq_cons group rest
      have notEmpty : (writeGroups (group :: rest)).isEmpty = false := by
        rw [written]; rfl
      have parts := pieces_writeGroups (List.cons_ne_nil group rest)
      cases isLast :
          ((group :: rest).map fun group =>
            Nat.toDigits 16 group.toNat).getLast? with
      | none => simp at isLast
      | some last =>
          obtain ⟨lastGroup, -, isDigits⟩ :=
            List.mem_map.mp (List.mem_of_getLast? isLast)
          have noDot : last.contains '.' = false := by
            have notIn : '.' ∉ Nat.toDigits 16 lastGroup.toNat :=
              not_mem_toDigits (by decide) (by decide) (by decide) _
            simpa [← isDigits] using notIn
          rw [groupsAtEnd?, notEmpty]
          simp only [parts, isLast, noDot, Option.bind_eq_bind,
            Option.bind_some, mapM_map_eq_some group?_toDigits]
          rfl

/-- Octets behind a group are read back as the last two groups. -/
theorem groupsAtEnd?_embedded (rules : AddressRules)
    (octets : { octets : List UInt8 // octets.length = 4 }) :
    groupsAtEnd? rules (['f', 'f', 'f', 'f', ':'] ++ writeOctets octets.val) =
      some (0xffff :: groupsOfOctets octets.val) := by
  have parts : pieces ':'
      (['f', 'f', 'f', 'f', ':'] ++ writeOctets octets.val) =
      [['f', 'f', 'f', 'f'], writeOctets octets.val] := by
    have joined : ['f', 'f', 'f', 'f', ':'] ++ writeOctets octets.val =
        joinChars [':'] [['f', 'f', 'f', 'f'], writeOctets octets.val] := rfl
    rw [joined]
    apply pieces_joinChars
    · simp
    · intro text member
      simp only [List.mem_cons, List.not_mem_nil, or_false] at member
      rcases member with rfl | rfl
      · decide
      · exact not_mem_writeOctets (by decide) (by decide) octets.val
  have dotted : (writeOctets octets.val).contains '.' = true := by
    match octets with
    | ⟨[first, second, third, fourth], _⟩ => simp [writeOctets, joinChars]
  have ones : group? ['f', 'f', 'f', 'f'] = some 0xffff := rfl
  have isLast : [['f', 'f', 'f', 'f'], writeOctets octets.val].getLast? =
      some (writeOctets octets.val) := rfl
  rw [groupsAtEnd?]
  simp only [parts, isLast, dotted, octets?_writeOctets, Option.bind_eq_bind,
    Option.bind_some]
  simp [ones]

/-! ## Gaps -/

/-- A text without colons holds no gap. -/
theorem splitGap?_append {text : List Char} (notIn : ':' ∉ text)
    (rest : List Char) :
    splitGap? (text ++ rest) =
      (splitGap? rest).map fun (before, after) => (text ++ before, after) := by
  induction text with
  | nil => simp
  | cons char later ih =>
      simp only [List.mem_cons, not_or] at notIn
      simp [splitGap?, Ne.symm notIn.1, ih notIn.2]
      rfl

/-- Written groups hold no gap. -/
theorem splitGap?_writeGroups_append (group : UInt16) (others : List UInt16)
    (rest : List Char) :
    splitGap? (writeGroups (group :: others) ++ rest) =
      (splitGap? rest).map fun (before, after) =>
        (writeGroups (group :: others) ++ before, after) := by
  have noColon (group : UInt16) : ':' ∉ Nat.toDigits 16 group.toNat :=
    not_mem_toDigits (by decide) (by decide) (by decide) _
  induction others generalizing group with
  | nil => exact splitGap?_append (noColon group) rest
  | cons next later ih =>
      obtain ⟨first, chars, written, notColon⟩ := writeGroups_eq_cons next later
      have skipped : splitGap? (':' :: (writeGroups (next :: later) ++ rest)) =
          (splitGap? (writeGroups (next :: later) ++ rest)).map
            fun (before, after) => (':' :: before, after) := by
        rw [written, List.cons_append, splitGap?]
        simp [notColon]
      rw [writeGroups_cons_cons, List.append_assoc, List.cons_append,
        splitGap?_append (noColon group), skipped, ih, Option.map_map,
        Option.map_map]
      simp only [Function.comp_def, List.append_assoc, List.cons_append]

theorem splitGap?_writeGroups (groups : List UInt16) :
    splitGap? (writeGroups groups) = none := by
  cases groups with
  | nil => rfl
  | cons group others =>
      have split := splitGap?_writeGroups_append group others []
      rwa [List.append_nil] at split

/-- The gap is where one was left. -/
theorem splitGap?_gap (groups : List UInt16) (after : List Char) :
    splitGap? (writeGroups groups ++ ':' :: ':' :: after) =
      some (writeGroups groups, after) := by
  cases groups with
  | nil => rfl
  | cons group others =>
      rw [splitGap?_writeGroups_append]
      simp [splitGap?]

/-- A text is what is before its gap, the gap, and what is after it. -/
theorem splitGap?_eq_some {chars before after : List Char}
    (isSplit : splitGap? chars = some (before, after)) :
    chars = before ++ ':' :: ':' :: after := by
  induction chars using splitGap?.induct generalizing before with
  | case1 => cases isSplit
  | case2 rest =>
      cases isSplit
      rfl
  | case3 char rest notGap ih =>
      rw [splitGap?.eq_3 _ _ notGap, Option.map_eq_some_iff] at isSplit
      obtain ⟨⟨first, last⟩, isSplitRest, isPair⟩ := isSplit
      obtain ⟨rfl, rfl⟩ := Prod.mk.inj isPair
      rw [ih isSplitRest, List.cons_append]

/-! ## Shortened addresses -/

/-- A position and a length of a list at which there are as many zeros. -/
def IsZeroRun (groups : List UInt16) (run : Nat × Nat) : Prop :=
  groups.take run.1 ++
    (List.replicate run.2 0 ++ groups.drop (run.1 + run.2)) = groups

theorem isZeroRun_zeroRunAt (groups : List UInt16) (start : Nat) :
    IsZeroRun groups (start, zeroRunAt groups start) := by
  have zeros : (groups.drop start).takeWhile (· = 0) =
      List.replicate (zeroRunAt groups start) 0 := by
    rw [List.eq_replicate_iff]
    apply And.intro rfl
    intro group member
    simpa using List.mem_takeWhile_imp member
  have later : (groups.drop start).dropWhile (· = 0) =
      groups.drop (start + zeroRunAt groups start) := by
    let run := (groups.drop start).takeWhile (· = 0)
    have dropped : (run ++ (groups.drop start).dropWhile (· = 0)).drop
        run.length = (groups.drop start).dropWhile (· = 0) := List.drop_left
    rw [List.takeWhile_append_dropWhile, List.drop_drop] at dropped
    exact dropped.symm
  rw [IsZeroRun, ← zeros, ← later, List.takeWhile_append_dropWhile,
    List.take_append_drop]

/-- The longest run of zeros is a run of zeros. -/
theorem isZeroRun_longestZeroRun (groups : List UInt16) :
    IsZeroRun groups (longestZeroRun groups) := by
  apply List.foldlRecOn (motive := IsZeroRun groups)
  · rfl
  · intro longest isRun start member
    dsimp only
    split
    · exact isZeroRun_zeroRunAt groups start
    · exact isRun

/-- Zeros fill the gap of a run that was left out. -/
theorem fillGap?_of_isZeroRun (rules : AddressRules) {groups : List UInt16}
    (complete : groups.length = 8) {run : Nat × Nat}
    (isRun : IsZeroRun groups run) (isLong : 2 ≤ run.2) :
    fillGap? rules (groups.take run.1) (groups.drop (run.1 + run.2)) =
      some groups := by
  have lengths := congrArg List.length isRun
  simp only [List.length_append, List.length_replicate, complete] at lengths
  have isGap : 8 -
      ((groups.take run.1).length + (groups.drop (run.1 + run.2)).length) =
        run.2 := by
    omega
  unfold fillGap?
  simp only [isGap]
  have atMost : 7 ≤ if rules.allowsEmptyGap = true then 8 else 7 := by
    split <;> omega
  rw [if_pos ⟨by omega, by omega⟩, List.append_assoc, isRun]

theorem writeShortened_eq (groups : List UInt16) :
    writeShortened groups =
      if 2 ≤ (longestZeroRun groups).2 then
        writeGroups (groups.take (longestZeroRun groups).1) ++ ':' :: ':' ::
          writeGroups
            (groups.drop
              ((longestZeroRun groups).1 + (longestZeroRun groups).2))
      else writeGroups groups :=
  rfl

/-- Shortened groups are read back in any notation. -/
theorem allGroups?_writeShortened (rules : AddressRules)
    (groups : { groups : List UInt16 // groups.length = 8 }) :
    allGroups? rules (writeShortened groups.val) = some groups := by
  have complete := groups.property
  have isRun := isZeroRun_longestZeroRun groups.val
  rw [writeShortened_eq]
  split
  next isLong =>
    rw [allGroups?, splitGap?_gap]
    simp [groups?_writeGroups, groupsAtEnd?_writeGroups,
      fillGap?_of_isZeroRun rules complete isRun isLong, complete]
  next =>
    rw [allGroups?, splitGap?_writeGroups]
    simp [groupsAtEnd?_writeGroups, complete]

theorem groupOfOctets_octetsOfGroup (group : UInt16) :
    groupOfOctets (UInt8.ofNat (group.toNat / 256))
      (UInt8.ofNat (group.toNat % 256)) = group := by
  have bounded := group.toNat_lt
  have high : (UInt8.ofNat (group.toNat / 256)).toNat = group.toNat / 256 := by
    rw [UInt8.toNat_ofNat']
    omega
  have low : (UInt8.ofNat (group.toNat % 256)).toNat = group.toNat % 256 := by
    rw [UInt8.toNat_ofNat']
    omega
  rw [groupOfOctets, high, low, Nat.div_add_mod', UInt16.ofNat_toNat]

/-- Embedded octets are read back in any notation. -/
theorem allGroups?_embedded (rules : AddressRules)
    {groups : { groups : List UInt16 // groups.length = 8 }}
    {octets : List UInt8} (embeds : embeddedOctets? groups.val = some octets) :
    allGroups? rules
      ([':', ':', 'f', 'f', 'f', 'f', ':'] ++ writeOctets octets) =
      some groups := by
  unfold embeddedOctets? at embeds
  split at embeds
  next high low isEmbedded =>
    have isOctets := Option.some.inj embeds
    have asGroups : groupsOfOctets octets = [high, low] := by
      simp [← isOctets, octetsOfGroup, groupsOfOctets,
        groupOfOctets_octetsOfGroup]
    have gap : splitGap?
        ([':', ':', 'f', 'f', 'f', 'f', ':'] ++ writeOctets octets) =
        some ([], ['f', 'f', 'f', 'f', ':'] ++ writeOctets octets) := rfl
    have before : groups? [] = some [] := rfl
    have after : groupsAtEnd? rules
        (['f', 'f', 'f', 'f', ':'] ++ writeOctets octets) =
        some [0xffff, high, low] := by
      rw [groupsAtEnd?_embedded rules ⟨octets, by rw [← isOctets]; rfl⟩,
        asGroups]
    have filled : fillGap? rules [] [0xffff, high, low] = some groups.val := by
      rw [isEmbedded, fillGap?, if_pos ⟨by decide, by split <;> simp⟩]
      rfl
    rw [allGroups?, gap]
    simp only [before, after, filled, Option.bind_eq_bind, Option.bind_some]
    rw [dif_pos groups.property]
    rfl
  next => simp at embeds

theorem colon_mem_writeShortened
    (groups : { groups : List UInt16 // groups.length = 8 }) :
    ':' ∈ writeShortened groups.val := by
  rw [writeShortened_eq]
  split
  · simp
  · match groups with
    | ⟨first :: second :: rest, _⟩ => simp [writeGroups_cons_cons]

/-- An address is read back in any notation. -/
theorem read?_writeChars (rules : AddressRules) (address : Address) :
    read? rules address.writeChars = some address := by
  cases address with
  | v4 octets => simp [read?, writeChars, octets?_writeOctets]
  | v6 groups =>
      cases embeds : embeddedOctets? groups.val with
      | none =>
          simp [read?, writeChars, embeds,
            octets?_eq_none (by decide) (by decide)
              (colon_mem_writeShortened groups),
            allGroups?_writeShortened]
      | some octets =>
          have colon : ':' ∈ [':', ':', 'f', 'f', 'f', 'f', ':'] ++
            writeOctets octets := by simp
          have notDotted : octets? rules
              ([':', ':', 'f', 'f', 'f', 'f', ':'] ++ writeOctets octets) =
                none :=
            octets?_eq_none (by decide) (by decide) colon
          simp only [read?, writeChars, embeds, notDotted,
            allGroups?_embedded rules embeds]
          rfl

/-! ## Characters -/

/-- Written addresses contain nothing but digits, dots and colons. -/
theorem not_mem_writeChars {char : Char} (notDot : char ≠ '.')
    (notColon : char ≠ ':') (notDigit : Text.Ascii.hexDigitValue? char = none)
    (address : Address) :
    char ∉ address.writeChars := by
  have notInGroups (groups : List UInt16) : char ∉ writeGroups groups := by
    intro member
    rcases mem_joinChars member with isColon | ⟨text, isText, inText⟩
    · exact notColon isColon
    · obtain ⟨group, -, rfl⟩ := List.mem_map.mp isText
      exact not_mem_toDigits notDigit (by decide) (by decide) _ inText
  cases address with
  | v4 octets => exact not_mem_writeOctets notDot notDigit octets.val
  | v6 groups =>
      simp only [writeChars]
      split
      next octets embeds =>
        have notOne : char ≠ 'f' := by
          intro isOne
          rw [isOne] at notDigit
          exact absurd notDigit (by decide)
        simp [notColon, notOne, not_mem_writeOctets notDot notDigit]
      next =>
        rw [writeShortened_eq]
        split
        · simp [notInGroups, notColon]
        · exact notInGroups groups.val

/-! ## Characters that are refused -/

section Refused

variable {char : Char}

theorem isDigit_eq_false (notDigit : Text.Ascii.hexDigitValue? char = none) :
    Text.Ascii.isDigit char = false := by
  unfold Text.Ascii.hexDigitValue? at notDigit
  split at notDigit
  next => cases notDigit
  next isOther => simpa using isOther

variable (notColon : char ≠ ':')
  (notDigit : Text.Ascii.hexDigitValue? char = none)

include notDigit in
theorem group?_eq_none {digits : List Char} (member : char ∈ digits) :
    group? digits = none := by
  cases hasValue : Text.Numeral.hexValue? digits with
  | none => simp [group?, hasValue]
  | some value =>
      cases digits with
      | nil => cases member
      | cons first rest =>
          have isDigit := Text.Numeral.isSome_of_mem_of_valueOf? hasValue member
          rw [notDigit] at isDigit
          cases isDigit

include notColon notDigit

theorem mapM_group?_pieces_eq_none {chars : List Char} (member : char ∈ chars) :
    (pieces ':' chars).mapM group? = none := by
  obtain ⟨piece, isPiece, inPiece⟩ := exists_mem_pieces member notColon
  exact mapM_eq_none isPiece (group?_eq_none notDigit inPiece)

theorem groups?_eq_none {chars : List Char} (member : char ∈ chars) :
    groups? chars = none := by
  have notEmpty : chars.isEmpty = false := by
    simpa using List.ne_nil_of_mem member
  rw [groups?, notEmpty, mapM_group?_pieces_eq_none notColon notDigit member]
  rfl

variable (notDot : char ≠ '.')

include notDot

/-- The refused character is in the last piece, which may be dotted octets, or
in a group before it. -/
theorem groupsAtEnd?_eq_none {rules : AddressRules} {chars : List Char}
    (member : char ∈ chars) :
    groupsAtEnd? rules chars = none := by
  have notEmpty : chars.isEmpty = false := by
    simpa using List.ne_nil_of_mem member
  have noGroups := mapM_group?_pieces_eq_none notColon notDigit member
  obtain ⟨piece, isPiece, inPiece⟩ := exists_mem_pieces member notColon
  rw [groupsAtEnd?, notEmpty]
  cases isLast : (pieces ':' chars).getLast? with
  | none => simp [isLast]
  | some last =>
      have split : (pieces ':' chars).dropLast ++ [last] =
          pieces ':' chars := by
        obtain ⟨before, isAppend⟩ := List.getLast?_eq_some_iff.mp isLast
        rw [isAppend, List.dropLast_concat]
      rw [← split] at isPiece
      rcases List.mem_append.mp isPiece with isLeading | isEnd
      · simp [isLast, noGroups,
          mapM_eq_none isLeading (group?_eq_none notDigit inPiece)]
      · have inLast : char ∈ last := List.mem_singleton.mp isEnd ▸ inPiece
        simp [isLast, noGroups,
          octets?_eq_none notDot (isDigit_eq_false notDigit) inLast]

/-- A character that is neither a dot, a colon nor a digit is in no address. -/
theorem read?_eq_none {rules : AddressRules} {chars : List Char}
    (member : char ∈ chars) :
    read? rules chars = none := by
  have notGroups : allGroups? rules chars = none := by
    cases isSplit : splitGap? chars with
    | none =>
        simp [allGroups?, isSplit,
          groupsAtEnd?_eq_none notColon notDigit notDot member]
    | some parts =>
        obtain ⟨before, after⟩ := parts
        rw [splitGap?_eq_some isSplit] at member
        simp only [List.mem_append, List.mem_cons, notColon, false_or] at member
        rcases member with inBefore | inAfter
        · simp [allGroups?, isSplit, groups?_eq_none notColon notDigit inBefore]
        · simp [allGroups?, isSplit,
            groupsAtEnd?_eq_none notColon notDigit notDot inAfter]
  rw [read?, octets?_eq_none notDot (isDigit_eq_false notDigit) member,
    notGroups]
  rfl

end Refused

end AttributeQuery.Address

namespace AttributeQuery.Network

theorem splitSlash?_append {before : List Char} (notIn : '/' ∉ before)
    (after : List Char) :
    splitSlash? (before ++ '/' :: after) = some (before, after) := by
  induction before with
  | nil => rfl
  | cons char rest ih =>
      simp only [List.mem_cons, not_or] at notIn
      simp [splitSlash?, Ne.symm notIn.1, ih notIn.2]

theorem splitSlash?_eq_none {chars : List Char} (notIn : '/' ∉ chars) :
    splitSlash? chars = none := by
  induction chars with
  | nil => rfl
  | cons char rest ih =>
      simp only [List.mem_cons, not_or] at notIn
      simp [splitSlash?, Ne.symm notIn.1, ih notIn.2]

/-- A text is what is before its first slash, the slash, and what is after
it. -/
theorem splitSlash?_eq_some {chars before after : List Char}
    (isSplit : splitSlash? chars = some (before, after)) :
    chars = before ++ '/' :: after := by
  induction chars using splitSlash?.induct generalizing before with
  | case1 => cases isSplit
  | case2 rest =>
      cases isSplit
      rfl
  | case3 char rest notSlash ih =>
      rw [splitSlash?.eq_3 _ _ notSlash, Option.map_eq_some_iff] at isSplit
      obtain ⟨⟨first, last⟩, isSplitRest, isPair⟩ := isSplit
      obtain ⟨rfl, rfl⟩ := Prod.mk.inj isPair
      rw [ih isSplitRest, List.cons_append]

theorem length_prefixDigits (network : Network) :
    (Nat.toDigits 10 network.prefixLength).length ≤
      network.address.prefixDigits := by
  have bounded := network.prefixLength_le_width
  cases address : network.address with
  | v4 octets =>
      simp only [address, Address.width] at bounded
      simp only [Address.prefixDigits]
      exact (Nat.length_toDigits_le_iff (by decide) (by decide)).mpr (by omega)
  | v6 groups =>
      simp only [address, Address.width] at bounded
      simp only [Address.prefixDigits]
      exact (Nat.length_toDigits_le_iff (by decide) (by decide)).mpr (by omega)

theorem toList_toText (network : Network) :
    network.toText.toList =
      network.address.writeChars ++
        '/' :: Nat.toDigits 10 network.prefixLength := by
  simp [toText, Address.toText, Text.Numeral.ofNat]

/-- The text of a network is read back as that network. -/
theorem ofText?_toText (network : Network) :
    ofText? network.toText = some network := by
  have noSlash : '/' ∉ network.address.writeChars :=
    Address.not_mem_writeChars (by decide) (by decide) (by decide) _
  rw [ofText?, toList_toText, splitSlash?_append noSlash]
  simp [Address.read?_writeChars, withPrefix?,
    Text.Numeral.decimalValue?_toDigits, length_prefixDigits,
    network.prefixLength_le_width]

/-- The shortest text of a network is read back as that network: the text of a
single address has no slash, so it is read as a bare address. -/
theorem read?_canonicalText (network : Network) :
    read? network.canonicalText = some network := by
  unfold canonicalText
  split
  next isSingle =>
    have noSlash : '/' ∉ network.address.writeChars :=
      Address.not_mem_writeChars (by decide) (by decide) (by decide) _
    have isWhole : ofAddress network.address = network := by
      obtain ⟨address, prefixLength, _⟩ := network
      simp only [Network.isSingle, decide_eq_true_eq] at isSingle
      simp [ofAddress, isSingle]
    simp [read?, ofText?, Address.toText, splitSlash?_eq_none noSlash,
      Address.read?_writeChars, isWhole]
  next => rw [read?, ofText?_toText, Option.some_or]

/-- Different networks have different shortest texts. -/
theorem canonicalText_inj {first second : Network} :
    first.canonicalText = second.canonicalText ↔ first = second := by
  constructor
  · intro same
    have readBack := first.read?_canonicalText
    rw [same, second.read?_canonicalText] at readBack
    exact (Option.some.inj readBack).symm
  · rintro rfl
    rfl

theorem not_mem_toText {char : Char} (notDot : char ≠ '.')
    (notColon : char ≠ ':') (notSlash : char ≠ '/')
    (notDigit : Text.Ascii.hexDigitValue? char = none) (network : Network) :
    char ∉ network.toText.toList := by
  rw [toList_toText]
  simp only [List.mem_append, List.mem_cons, not_or]
  exact ⟨Address.not_mem_writeChars notDot notColon notDigit _, notSlash,
    Address.not_mem_toDigits notDigit (by decide) (by decide) _⟩

/-- The text of a network can be inlined. -/
theorem fault?_toText (network : Network) :
    Text.Inlinable.fault? network.toText.toList = none := by
  apply Text.Inlinable.fault?_eq_none
  · exact not_mem_toText (by decide) (by decide) (by decide) (by decide) network
  · exact not_mem_toText (by decide) (by decide) (by decide) (by decide) network

/-- The shortest text of a network can be inlined. -/
theorem fault?_canonicalText (network : Network) :
    Text.Inlinable.fault? network.canonicalText.toList = none := by
  unfold canonicalText
  split
  · simp only [Address.toText, String.toList_ofList]
    apply Text.Inlinable.fault?_eq_none
    · exact Address.not_mem_writeChars (by decide) (by decide) (by decide) _
    · exact Address.not_mem_writeChars (by decide) (by decide) (by decide) _
  · exact network.fault?_toText

end AttributeQuery.Network
