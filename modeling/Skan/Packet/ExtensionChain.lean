import Skan.Packet.Internet

/-!
# The chain of IPv6 extension headers

What `parse_ipv6_extensions` returns, said of the bytes: a `Walk` is a chain of whole extension
headers, each of them where the one before it ends and of the kind the one before it announces. The
parser is compared with it in both directions.

* `walk_extensionLoop`: whatever the parser returns, its headers are a walk from the front.
* `extensionLoop_of_walk`: a walk to a header of another kind is followed to its end, as long as
  both limits allow it, so there is only one such walk.

The parser's reads are all within the payload: `parseIpv6ExtensionsChecked`, which looks every byte
up, never misses one.
-/

namespace Skan.Packet

open BigEndian

variable {payload short long : List UInt8} {next last : UInt8} {offset length i stop : ℕ}
  {header : IPv6ExtensionHeader} {headers : List IPv6ExtensionHeader}

/-! ### Walks -/

/-- The number of bytes of the extension header `next` at `offset`, read from its own length byte
unless its size is fixed. -/
def extensionLength? (payload : List UInt8) (next : UInt8) (offset : ℕ) : Option ℕ :=
  if next = 44 then some 8 else payload[offset + 1]?.map fun units ↦ (units.toNat + 1) * 8

/-- An extension header announced as `next` stands in the payload in full. -/
structure HeaderAt (payload : List UInt8) (next : UInt8) (header : IPv6ExtensionHeader) : Prop where
  kind : IPv6ExtensionKind.ofByte next = some header.kind
  nextHeader : payload[header.offset]? = some header.nextHeader
  length : extensionLength? payload next header.offset = some header.length
  fits : header.offset + header.length ≤ payload.length
  fields : header = readExtension payload header.kind header.offset header.length

/-- `Walk payload offset next headers stop last`: from `offset`, where a header announced as `next`
is due, `headers` follow one another up to `stop`, where one announced as `last` is due. -/
inductive Walk (payload : List UInt8) :
    ℕ → UInt8 → List IPv6ExtensionHeader → ℕ → UInt8 → Prop
  | nil {offset : ℕ} (next : UInt8) (h : offset ≤ payload.length) :
    Walk payload offset next [] offset next
  | cons {next last : UInt8} {header : IPv6ExtensionHeader} {headers : List IPv6ExtensionHeader}
    {stop : ℕ} (here : HeaderAt payload next header)
    (rest : Walk payload (header.offset + header.length) header.nextHeader headers stop last) :
    Walk payload header.offset next (header :: headers) stop last

/-- What the status is where the walk ends at a header of another kind. -/
def settledStatus (last : UInt8) : IPv6ExtensionParseStatus :=
  if last = 59 then .noNextHeader else if isTerminalProtocol last then .complete else .unsupported

/-- The status says that the chain was walked to its end. -/
def IPv6ExtensionParseStatus.Settled (status : IPv6ExtensionParseStatus) : Prop :=
  status = .complete ∨ status = .noNextHeader ∨ status = .unsupported

/-- The whole chain of extension headers, up to the first header of another kind, lies within the
payload and within both limits. -/
structure Fits (payload : List UInt8) (first : UInt8) (maxHeaders maxBytes : ℕ)
    (headers : List IPv6ExtensionHeader) (stop : ℕ) (last : UInt8) : Prop where
  walk : Walk payload 0 first headers stop last
  other : IPv6ExtensionKind.ofByte last = none
  headers_le : headers.length ≤ maxHeaders
  stop_le : stop ≤ maxBytes

theorem settled_settledStatus (last : UInt8) : (settledStatus last).Settled := by
  unfold settledStatus
  split_ifs
  · exact .inr (.inl rfl)
  · exact .inl rfl
  · exact .inr (.inr rfl)

theorem eight_le_of_extensionLength (h : extensionLength? payload next offset = some length) :
    8 ≤ length := by
  unfold extensionLength? at h
  split_ifs at h
  · exact (Option.some.inj h).le
  · obtain ⟨units, -, rfl⟩ := Option.map_eq_some_iff.mp h
    omega

theorem HeaderAt.eight_le (h : HeaderAt payload next header) : 8 ≤ header.length :=
  eight_le_of_extensionLength h.length

namespace Walk

variable {payload : List UInt8} {offset stop : ℕ} {next last : UInt8}
  {headers : List IPv6ExtensionHeader}

section

variable (h : Walk payload offset next headers stop last)

include h

theorem stop_le_length : stop ≤ payload.length := by
  induction h with
  | nil _ hoffset => exact hoffset
  | cons _ _ ih => exact ih

theorem add_sum_lengths : offset + (headers.map (·.length)).sum = stop := by
  induction h with
  | nil => rfl
  | cons here rest ih => rwa [List.map_cons, List.sum_cons, ← Nat.add_assoc]

theorem offset_le_stop : offset ≤ stop := by
  have := h.add_sum_lengths
  omega

end

end Walk

/-! ### The parser and the walk -/

theorem getElem?_eq_some_getD (h : i < payload.length) : payload[i]? = some (payload.getD i 0) := by
  rw [List.getD_eq_getElem _ _ h, List.getElem?_eq_getElem h]

theorem extensionLength_eq (h : offset + 1 < payload.length) :
    extensionLength? payload next offset =
      some (if next = 44 then 8 else ((payload.getD (offset + 1) 0).toNat + 1) * 8) := by
  unfold extensionLength?
  split_ifs
  · rfl
  · rw [getElem?_eq_some_getD h, Option.map_some]

@[simp] theorem readExtension_offset (payload : List UInt8) (kind : IPv6ExtensionKind)
    (offset length : ℕ) : (readExtension payload kind offset length).offset = offset := by
  unfold readExtension
  split_ifs <;> rfl

@[simp] theorem readExtension_length (payload : List UInt8) (kind : IPv6ExtensionKind)
    (offset length : ℕ) : (readExtension payload kind offset length).length = length := by
  unfold readExtension
  split_ifs <;> rfl

@[simp] theorem readExtension_kind (payload : List UInt8) (kind : IPv6ExtensionKind)
    (offset length : ℕ) : (readExtension payload kind offset length).kind = kind := by
  unfold readExtension
  split_ifs <;> rfl

@[simp] theorem readExtension_nextHeader (payload : List UInt8) (kind : IPv6ExtensionKind)
    (offset length : ℕ) :
    (readExtension payload kind offset length).nextHeader = payload.getD offset 0 := by
  unfold readExtension
  split_ifs <;> rfl

/-- The header a step of the loop reads is there in full. -/
theorem headerAt_readExtension {kind : IPv6ExtensionKind}
    (hkind : IPv6ExtensionKind.ofByte next = some kind) (hshort : offset + 1 < payload.length)
    (hlength : length = if next = 44 then 8 else ((payload.getD (offset + 1) 0).toNat + 1) * 8)
    (hfits : offset + length ≤ payload.length) :
    HeaderAt payload next (readExtension payload kind offset length) where
  kind := by rw [readExtension_kind, hkind]
  nextHeader := by
    rw [readExtension_offset, readExtension_nextHeader]
    exact getElem?_eq_some_getD (by omega)
  length := by rw [readExtension_offset, readExtension_length, extensionLength_eq hshort, hlength]
  fits := by rwa [readExtension_offset, readExtension_length]
  fields := by rw [readExtension_kind, readExtension_offset, readExtension_length]

/-- Only one header can be announced as `next` at a place. -/
theorem HeaderAt.eq {other : IPv6ExtensionHeader} (h : HeaderAt payload next header)
    (hother : HeaderAt payload next other) (hoffset : header.offset = other.offset) :
    header = other := by
  have hkind : header.kind = other.kind := Option.some.inj (h.kind.symm.trans hother.kind)
  have hlength : header.length = other.length :=
    Option.some.inj (h.length.symm.trans ((congrArg _ hoffset).trans hother.length))
  rw [h.fields, hother.fields, hkind, hoffset, hlength]

/-- A walk that ends at a header of another kind passes every header any walk passes. -/
theorem Walk.isPrefix_of_other {stop' : ℕ} {last' : UInt8} {headers' : List IPv6ExtensionHeader}
    (hother : IPv6ExtensionKind.ofByte last = none)
    (h : Walk payload offset next headers stop last)
    (h' : Walk payload offset next headers' stop' last') : headers' <+: headers := by
  induction h' generalizing headers with
  | nil => exact List.nil_prefix
  | @cons next last' header headers' stop' here rest ih =>
    generalize hplace : header.offset = offset at h
    cases h with
    | nil => exact absurd (hother.symm.trans here.kind) (by simp)
    | cons here' rest' =>
      obtain rfl := here.eq here' hplace
      exact (List.prefix_cons_inj _).mpr (ih rest')

section Loop

variable {payload : List UInt8} {first : UInt8} {maxBytes room offset : ℕ} {next : UInt8}
  {headers : List IPv6ExtensionHeader}

/-- At a header of another kind the loop ends. -/
theorem extensionLoop_of_other (hother : IPv6ExtensionKind.ofByte next = none) :
    extensionLoop payload first maxBytes room offset next headers =
      { status := settledStatus next, terminalNextHeader := next, consumedBytes := offset,
        headers } := by
  rw [extensionLoop.eq_def, hother]
  rfl

/-- **What one turn of the loop does** at an extension header: it takes the header, which stands
there in full and within the limits, or it gives up because none does. -/
theorem extensionLoop_turn {kind : IPv6ExtensionKind}
    (hkind : IPv6ExtensionKind.ofByte next = some kind) (hoffset : offset ≤ payload.length) :
    (∃ rest header, room = rest + 1 ∧ HeaderAt payload next header ∧ header.offset = offset ∧
      offset + header.length ≤ maxBytes ∧
      extensionLoop payload first maxBytes room offset next headers =
        extensionLoop payload first maxBytes rest (offset + header.length) header.nextHeader
          (headers ++ [header])) ∨
    (∃ status, ¬ status.Settled ∧
      extensionLoop payload first maxBytes room offset next headers =
        { status, terminalNextHeader := first, consumedBytes := offset, headers }) ∧
      (room = 0 ∨ ∀ header, HeaderAt payload next header → header.offset = offset →
        maxBytes < offset + header.length) := by
  have hlimit : ¬ IPv6ExtensionParseStatus.limitExceeded.Settled := by
    simp [IPv6ExtensionParseStatus.Settled]
  have hmalformed : ¬ IPv6ExtensionParseStatus.malformed.Settled := by
    simp [IPv6ExtensionParseStatus.Settled]
  rw [extensionLoop.eq_def, hkind]
  cases room with
  | zero => exact .inr ⟨⟨_, hlimit, rfl⟩, .inl rfl⟩
  | succ rest =>
    dsimp only
    generalize hlength :
      (if next = 44 then 8 else ((payload.getD (offset + 1) 0).toNat + 1) * 8) = length
    -- a header announced as `next` at `offset` is as long as its length byte says
    have hmust : ∀ header, HeaderAt payload next header → header.offset = offset →
        8 ≤ header.length ∧ offset + header.length ≤ payload.length ∧ header.length = length := by
      intro header hheader hplace
      have hsize := hheader.eight_le
      have hfits := hheader.fits
      have hread := hheader.length
      rw [hplace] at hfits hread
      rw [extensionLength_eq (by omega), hlength] at hread
      exact ⟨hsize, hfits, (Option.some.inj hread).symm⟩
    split_ifs with hbudget hshort hlong hover
    · refine .inr ⟨⟨_, hlimit, rfl⟩, .inr fun header hheader hplace ↦ ?_⟩
      have := hmust header hheader hplace
      omega
    · refine .inr ⟨⟨_, hmalformed, rfl⟩, .inr fun header hheader hplace ↦ ?_⟩
      have := hmust header hheader hplace
      omega
    · refine .inr ⟨⟨_, hlimit, rfl⟩, .inr fun header hheader hplace ↦ ?_⟩
      have := hmust header hheader hplace
      omega
    · refine .inr ⟨⟨_, hmalformed, rfl⟩, .inr fun header hheader hplace ↦ ?_⟩
      have := hmust header hheader hplace
      omega
    · have hhere := headerAt_readExtension hkind (by omega) hlength.symm (by omega)
      refine .inl ⟨rest, readExtension payload kind offset length, rfl, hhere, by simp, ?_, ?_⟩
      · rw [readExtension_length]
        omega
      · rw [readExtension_length, readExtension_nextHeader]

/-- **The headers returned are a walk**, within both limits; a settled status is the one of the
header the walk stops at. -/
theorem walk_extensionLoop (hoffset : offset ≤ payload.length) (hbudget : offset ≤ maxBytes)
    {r : IPv6ExtensionParseResult}
    (hr : extensionLoop payload first maxBytes room offset next headers = r) :
    ∃ taken last, r.headers = headers ++ taken ∧
      Walk payload offset next taken r.consumedBytes last ∧ taken.length ≤ room ∧
      r.consumedBytes ≤ maxBytes ∧ (r.status.Settled → IPv6ExtensionKind.ofByte last = none) := by
  induction room using Nat.strong_induction_on generalizing offset next headers with
  | _ room ih =>
    rcases hkind : IPv6ExtensionKind.ofByte next with - | kind
    · rw [extensionLoop_of_other hkind] at hr
      subst hr
      exact ⟨[], next, (List.append_nil _).symm, .nil next hoffset, Nat.zero_le _, hbudget,
        fun _ ↦ hkind⟩
    · obtain ⟨rest, header, rfl, hhere, rfl, hwithin, hstep⟩ | ⟨⟨status, hopen, hstop⟩, -⟩ :=
        @extensionLoop_turn payload first maxBytes room offset next headers kind hkind hoffset
      · rw [hstep] at hr
        obtain ⟨taken, last, hheaders, hwalk, hcount, hle, hsettled⟩ :=
          ih rest (Nat.lt_succ_self rest) hhere.fits hwithin hr
        refine ⟨header :: taken, last, ?_, .cons hhere hwalk, Nat.succ_le_succ hcount, hle,
          hsettled⟩
        rw [hheaders, List.append_assoc, List.singleton_append]
      · rw [hstop] at hr
        subst hr
        exact ⟨[], next, (List.append_nil _).symm, .nil next hoffset, Nat.zero_le _, hbudget,
          fun hsettled ↦ absurd hsettled hopen⟩

/-- **A walk within the limits is followed to its end.** -/
theorem extensionLoop_of_walk {taken : List IPv6ExtensionHeader}
    (hwalk : Walk payload offset next taken stop last)
    (hother : IPv6ExtensionKind.ofByte last = none) (hroom : taken.length ≤ room)
    (hstop : stop ≤ maxBytes) :
    extensionLoop payload first maxBytes room offset next headers =
      { status := settledStatus last, terminalNextHeader := last, consumedBytes := stop,
        headers := headers ++ taken } := by
  induction hwalk generalizing room headers with
  | nil last _ => rw [extensionLoop_of_other hother, List.append_nil]
  | @cons next last header taken stop here rest ih =>
    have hplace : header.offset ≤ payload.length := (Nat.le_add_right _ _).trans here.fits
    have hreach : header.offset + header.length ≤ maxBytes := rest.offset_le_stop.trans hstop
    obtain ⟨left, other, rfl, hhere, hsame, -, hstep⟩ | ⟨-, hgive⟩ :=
      @extensionLoop_turn payload first maxBytes room header.offset next headers header.kind
        here.kind hplace
    · obtain rfl := hhere.eq here hsame
      rw [hstep, ih hother (Nat.le_of_succ_le_succ hroom) hstop, List.append_assoc,
        List.singleton_append]
    · -- giving up needs the room or the budget to be gone, and neither is
      obtain rfl | hnone := hgive
      · exact absurd hroom (Nat.not_succ_le_zero _)
      · exact absurd (hnone header here rfl) (Nat.not_lt.mpr hreach)

end Loop

/-! ### Payloads cut short -/

section

variable (h : short <+: long)

include h

theorem getD_of_isPrefix (hi : i < short.length) : short.getD i 0 = long.getD i 0 := by
  obtain ⟨rest, rfl⟩ := h
  rw [List.getD_append _ _ _ _ hi]

theorem getElem?_of_isPrefix (hi : i < short.length) : short[i]? = long[i]? := by
  obtain ⟨rest, rfl⟩ := h
  rw [List.getElem?_append_left hi]

theorem readExtension_of_isPrefix (hlength : 8 ≤ length) (hfits : offset + length ≤ short.length)
    (kind : IPv6ExtensionKind) :
    readExtension short kind offset length = readExtension long kind offset length := by
  have hread : ∀ i, i < 8 → short.getD (offset + i) 0 = long.getD (offset + i) 0 :=
    fun i hi ↦ getD_of_isPrefix h (by omega)
  have hnext : short.getD offset 0 = long.getD offset 0 := hread 0 (by decide)
  have hfragment : readU16 short (offset + 2) = readU16 long (offset + 2) := by
    rw [readU16, readU16, hread 2 (by decide), Nat.add_assoc, hread 3 (by decide)]
  have hidentification : readU32 short (offset + 4) = readU32 long (offset + 4) :=
    readU32_congr fun j hj hlt ↦ getD_of_isPrefix h (by omega)
  rw [readExtension, readExtension, hnext, hfragment, hidentification]

/-- A header that is there in full stays there when the payload is cut off behind it. -/
theorem HeaderAt.of_isPrefix (hheader : HeaderAt long next header)
    (hfits : header.offset + header.length ≤ short.length) : HeaderAt short next header where
  kind := hheader.kind
  nextHeader := by
    have hsize := hheader.eight_le
    rw [getElem?_of_isPrefix h (by omega)]
    exact hheader.nextHeader
  length := by
    have hsize := hheader.eight_le
    have hread := hheader.length
    rwa [extensionLength?, ← getElem?_of_isPrefix h (by omega)] at hread
  fits := hfits
  fields := by rw [readExtension_of_isPrefix h hheader.eight_le hfits]; exact hheader.fields

/-- **A walk is the same** in a payload cut off behind it. -/
theorem Walk.of_isPrefix (hwalk : Walk long offset next headers stop last)
    (hstop : stop ≤ short.length) : Walk short offset next headers stop last := by
  induction hwalk with
  | nil next _ => exact .nil next hstop
  | cons here rest ih =>
    exact .cons (here.of_isPrefix h (rest.offset_le_stop.trans hstop)) (ih hstop)

end

/-! ### Reads -/

/-- `readExtension` with every byte looked up: `none` where one of them is not there. -/
def readExtensionChecked (payload : List UInt8) (kind : IPv6ExtensionKind) (offset length : ℕ) :
    Option IPv6ExtensionHeader := do
  let nextHeader ← payload[offset]?
  let header : IPv6ExtensionHeader := { kind, nextHeader, offset, length }
  if kind = .fragment then
    let fragment := u16OfBytes (← payload[offset + 2]?) (← payload[offset + 3]?)
    let fragmentIdentification := u32OfBytes (← payload[offset + 4]?) (← payload[offset + 5]?)
      (← payload[offset + 6]?) (← payload[offset + 7]?)
    some
      { header with
        fragmentOffset := (fragment >>> 3) &&& 0x1FFF
        moreFragments := fragment &&& 0x0001 ≠ 0
        fragmentIdentification }
  else some header

/-- `extensionLoop` with every byte looked up. -/
def extensionLoopChecked (payload : List UInt8) (first : UInt8) (maxBytes room offset : ℕ)
    (nextHeader : UInt8) (headers : List IPv6ExtensionHeader) :
    Option IPv6ExtensionParseResult :=
  let failure (status : IPv6ExtensionParseStatus) : Option IPv6ExtensionParseResult :=
    some { status, terminalNextHeader := first, consumedBytes := offset, headers }
  match IPv6ExtensionKind.ofByte nextHeader, room with
  | some _, 0 => failure .limitExceeded
  | some kind, room + 1 =>
    if offset ≥ maxBytes then failure .limitExceeded
    else
      let remainingBudget := maxBytes - offset
      let available := payload.length - offset
      if available < 2 ∨ remainingBudget < 2 then failure .malformed
      else do
        let length ← extensionLength? payload nextHeader offset
        if length > available ∨ length > remainingBudget then
          failure (if length > remainingBudget then .limitExceeded else .malformed)
        else
          let header ← readExtensionChecked payload kind offset length
          extensionLoopChecked payload first maxBytes room (offset + length) header.nextHeader
            (headers ++ [header])
  | none, _ =>
    some
      { status := settledStatus nextHeader, terminalNextHeader := nextHeader,
        consumedBytes := offset, headers }
termination_by structural room

/-- `parse_ipv6_extensions` with every byte looked up. -/
def parseIpv6ExtensionsChecked (payload : List UInt8) (firstNextHeader : UInt8)
    (maxHeaders maxBytes : ℕ) : Option IPv6ExtensionParseResult :=
  if maxHeaders = 0 ∨ maxBytes = 0 then
    some { status := .limitExceeded, terminalNextHeader := firstNextHeader }
  else extensionLoopChecked payload firstNextHeader maxBytes maxHeaders 0 firstNextHeader []

theorem readExtensionChecked_eq {kind : IPv6ExtensionKind} (hlength : 8 ≤ length)
    (hfits : offset + length ≤ payload.length) :
    readExtensionChecked payload kind offset length =
      some (readExtension payload kind offset length) := by
  have hbyte : ∀ i, i < 8 → payload[offset + i]? = some (payload.getD (offset + i) 0) :=
    fun i hi ↦ getElem?_eq_some_getD (by omega)
  have hzero : payload[offset]? = some (payload.getD offset 0) := hbyte 0 (by decide)
  rw [readExtensionChecked, readExtension, hzero]
  by_cases hkind : kind = .fragment
  · rw [if_pos hkind, hbyte 2 (by decide), hbyte 3 (by decide), hbyte 4 (by decide),
      hbyte 5 (by decide), hbyte 6 (by decide), hbyte 7 (by decide)]
    subst hkind
    rfl
  · simp only [if_neg hkind]
    rfl

/-- **No byte past the payload is read** by the loop. -/
theorem extensionLoopChecked_eq (payload : List UInt8) (first : UInt8) (maxBytes room : ℕ)
    (hoffset : offset ≤ payload.length) (next : UInt8) (headers : List IPv6ExtensionHeader) :
    extensionLoopChecked payload first maxBytes room offset next headers =
      some (extensionLoop payload first maxBytes room offset next headers) := by
  induction room generalizing offset next headers with
  | zero =>
    rw [extensionLoopChecked.eq_def, extensionLoop.eq_def]
    rcases IPv6ExtensionKind.ofByte next with - | kind <;> rfl
  | succ room ih =>
    rw [extensionLoopChecked.eq_def, extensionLoop.eq_def]
    rcases IPv6ExtensionKind.ofByte next with - | kind
    · rfl
    dsimp only
    by_cases hspent : offset ≥ maxBytes
    · rw [if_pos hspent, if_pos hspent]
    by_cases hshort : payload.length - offset < 2 ∨ maxBytes - offset < 2
    · rw [if_neg hspent, if_neg hspent, if_pos hshort, if_pos hshort]
    -- the length byte is there, and the rest of the header once its length has been compared
    have hread := @extensionLength_eq payload next offset (by omega)
    have hsize := eight_le_of_extensionLength hread
    rw [if_neg hspent, if_neg hspent, if_neg hshort, if_neg hshort, hread]
    generalize (if next = 44 then 8 else ((payload.getD (offset + 1) 0).toNat + 1) * 8) = length
      at hsize
    show (if _ then _ else _) = _
    by_cases hlong : length > payload.length - offset ∨ length > maxBytes - offset
    · rw [if_pos hlong, if_pos hlong]
    · have hfits : offset + length ≤ payload.length := by omega
      rw [if_neg hlong, if_neg hlong, readExtensionChecked_eq hsize hfits]
      show extensionLoopChecked payload first maxBytes room (offset + length)
        (readExtension payload kind offset length).nextHeader _ = _
      rw [readExtension_nextHeader]
      exact ih hfits _ _

/-! ### The parser -/

section Parser

variable {payload : List UInt8} {first : UInt8} {maxHeaders maxBytes : ℕ}

theorem parseIpv6Extensions_eq_loop (hheaders : 0 < maxHeaders) (hbytes : 0 < maxBytes) :
    parseIpv6Extensions payload first maxHeaders maxBytes =
      extensionLoop payload first maxBytes maxHeaders 0 first [] :=
  if_neg (by omega)

/-- A chain that fits is what the parser returns. -/
theorem parseIpv6Extensions_of_fits (hheaders : 0 < maxHeaders) (hbytes : 0 < maxBytes)
    (h : Fits payload first maxHeaders maxBytes headers stop last) :
    parseIpv6Extensions payload first maxHeaders maxBytes =
      { status := settledStatus last, terminalNextHeader := last, consumedBytes := stop,
        headers } := by
  rw [parseIpv6Extensions_eq_loop hheaders hbytes,
    extensionLoop_of_walk h.walk h.other h.headers_le h.stop_le, List.nil_append]

/-- Where the parser settles, what it returns is a chain that fits. -/
theorem fits_of_settled {r : IPv6ExtensionParseResult}
    (hr : parseIpv6Extensions payload first maxHeaders maxBytes = r) (hsettled : r.status.Settled) :
    ∃ last, Fits payload first maxHeaders maxBytes r.headers r.consumedBytes last := by
  by_cases hlimits : maxHeaders = 0 ∨ maxBytes = 0
  · rw [parseIpv6Extensions, if_pos hlimits] at hr
    subst hr
    simp [IPv6ExtensionParseStatus.Settled] at hsettled
  · rw [parseIpv6Extensions, if_neg hlimits] at hr
    obtain ⟨taken, last, htaken, hwalk, hcount, hconsumed, hother⟩ :=
      walk_extensionLoop (Nat.zero_le _) (Nat.zero_le _) hr
    rw [List.nil_append] at htaken
    rw [← htaken] at hwalk hcount
    exact ⟨last, hwalk, hother hsettled, hcount, hconsumed⟩

end Parser

/-- **The extension header walk.** Every byte the parser looks at lies in the payload. The headers
it returns follow one another from the front, each of the kind the one before it announces, up to
what it says it consumed, which is within the payload and the limits. It settles exactly where the
whole chain fits, with the status of the first header of another kind. -/
theorem parseIpv6Extensions_walk (payload : List UInt8) (first : UInt8) {maxHeaders maxBytes : ℕ}
    (hheaders : 0 < maxHeaders) (hbytes : 0 < maxBytes) :
    ∃ r, parseIpv6Extensions payload first maxHeaders maxBytes = r ∧
      parseIpv6ExtensionsChecked payload first maxHeaders maxBytes = some r ∧
      (∃ last, Walk payload 0 first r.headers r.consumedBytes last) ∧
      (r.headers.map (·.length)).sum = r.consumedBytes ∧
      r.consumedBytes ≤ min payload.length maxBytes ∧ r.headers.length ≤ maxHeaders ∧
      (r.status.Settled ↔
        ∃ headers stop last, Fits payload first maxHeaders maxBytes headers stop last) ∧
      ∀ headers stop last, Fits payload first maxHeaders maxBytes headers stop last →
        r = { status := settledStatus last, terminalNextHeader := last, consumedBytes := stop,
              headers } := by
  have hloop := @parseIpv6Extensions_eq_loop payload first _ _ hheaders hbytes
  refine ⟨_, rfl, ?_⟩
  obtain ⟨taken, last, htaken, hwalk, hcount, hconsumed, hother⟩ :=
    walk_extensionLoop (Nat.zero_le _) (Nat.zero_le _) hloop.symm
  rw [List.nil_append] at htaken
  rw [← htaken] at hwalk hcount
  refine ⟨?_, ⟨last, hwalk⟩, ?_, le_min hwalk.stop_le_length hconsumed, hcount, ?_,
    fun headers stop last hfits ↦ parseIpv6Extensions_of_fits hheaders hbytes hfits⟩
  · rw [hloop, parseIpv6ExtensionsChecked, if_neg (by omega)]
    exact extensionLoopChecked_eq _ _ _ _ (Nat.zero_le _) _ _
  · have hsum := hwalk.add_sum_lengths
    rwa [Nat.zero_add] at hsum
  · constructor
    · exact fun hsettled ↦ ⟨_, _, last, hwalk, hother hsettled, hcount, hconsumed⟩
    · rintro ⟨headers, stop, last, hfits⟩
      rw [parseIpv6Extensions_of_fits hheaders hbytes hfits]
      exact settled_settledStatus last

/-- A hop-by-hop header of eight bytes and destination options of sixteen, before UDP. -/
def optionsPayload : List UInt8 :=
  [60, 0, 1, 4, 0, 0, 0, 0] ++ [17, 1, 1, 12, 0, 0, 0, 0, 0, 0, 0, 0, 0, 0, 0, 0] ++
    [0, 53, 0, 53, 0, 8, 0, 0]

theorem parseIpv6Extensions_walk_options :
    ∃ r, parseIpv6Extensions optionsPayload 0 8 2048 = r ∧
      parseIpv6ExtensionsChecked optionsPayload 0 8 2048 = some r ∧
      (∃ last, Walk optionsPayload 0 0 r.headers r.consumedBytes last) ∧
      (r.headers.map (·.length)).sum = r.consumedBytes ∧ r.consumedBytes = 24 ∧
      r.headers.length = 2 ∧ r.status = .complete := by
  obtain ⟨r, hr, hchecked, hwalk, hsum, -⟩ :=
    @parseIpv6Extensions_walk optionsPayload 0 8 2048 (by decide) (by decide)
  have hrun : (parseIpv6Extensions optionsPayload 0 8 2048).consumedBytes = 24 ∧
      (parseIpv6Extensions optionsPayload 0 8 2048).headers.length = 2 ∧
      (parseIpv6Extensions optionsPayload 0 8 2048).status = .complete := by decide
  rw [hr] at hrun
  exact ⟨r, hr, hchecked, hwalk, hsum, hrun⟩

end Skan.Packet
