import Mathlib.Data.List.Nodup
import Mathlib.Data.List.Perm.Subperm
import Mathlib.Data.Nat.ModEq
import Mathlib.Data.Nat.Prime.Basic
import OpenApp.Script

/-!
# Subnets of a network pool

A network of an instance gets a subnet of the pool. The subnets are tried one after the other, at steps of a
length that is taken from a hash, until Docker accepts one.
-/

namespace OpenApp.Docker

open Script

/-! ## Addresses -/

/-- `/^\d{1,3}$/u`, at most 255 -/
def octetOf (cs : List Char) : Option Nat :=
  if cs.length = 0 ∨ 3 < cs.length then none else (digits cs).filter (· ≤ 255)

def ipv4Address (value : String) : Option Nat :=
  match value.toList.splitOn '.' with
  | [first, second, third, fourth] =>
    [first, second, third, fourth].foldlM (fun address octet => (octetOf octet).map fun parsed => address * 256 + parsed) 0
  | _ => none

def formatIpv4Address (address : Nat) : String :=
  String.ofList (['.'].intercalate ([24, 16, 8, 0].map fun shift => (toString (address / 2 ^ shift % 256)).toList))

/-- An address is at most this, as all ranges are constants. -/
def privateIpv4Range (first last : Nat) : Bool :=
  [("10.0.0.0", "10.255.255.255"), ("172.16.0.0", "172.31.255.255"), ("192.168.0.0", "192.168.255.255")].any
    fun (rangeStart, rangeEnd) =>
      (ipv4Address rangeStart).any (· ≤ first) && (ipv4Address rangeEnd).any (last ≤ ·)

structure IPv4NetworkPool where
  cidr : String
  baseAddress : Nat
  subnetPrefix : Nat
  subnetSize : Nat
  subnetCount : Nat
  deriving DecidableEq

/-- `/^\d{1,2}$/u` -/
def poolPrefixOf (cs : List Char) : Option Nat :=
  if cs.length = 1 ∨ cs.length = 2 then digits cs else none

/-- The base address and the prefix of an aligned block of private addresses. -/
def readBlock (cidr : String) : Option (Nat × Nat) :=
  match cidr.toList.splitOn '/' with
  | [addressText, prefixText] =>
    match ipv4Address (String.ofList addressText), poolPrefixOf prefixText with
    | some address, some poolPrefix =>
      let poolSize := 2 ^ (32 - poolPrefix)
      let baseAddress := address / poolSize * poolSize
      if 8 ≤ poolPrefix ∧ poolPrefix ≤ 28 ∧ baseAddress = address ∧
          privateIpv4Range baseAddress (baseAddress + poolSize - 1) then
        some (baseAddress, poolPrefix)
      else none
    | _, _ => none
  | _ => none

/-- `subnetPrefix` is `none` where it is no integer. -/
def parseNetworkPool (cidr : String) (subnetPrefix : Option Int) (variablePrefix : String) :
    Except String IPv4NetworkPool :=
  match readBlock cidr with
  | none => .error (variablePrefix ++ "_NETWORK_POOL_CIDR must be an aligned private IPv4 CIDR")
  | some (baseAddress, poolPrefix) =>
    match subnetPrefix.filter fun subnetPrefix : Int => (poolPrefix : Int) < subnetPrefix ∧ subnetPrefix ≤ 29 with
    | none =>
      .error (variablePrefix ++ "_NETWORK_SUBNET_PREFIX must be an integer between " ++ toString (poolPrefix + 1) ++
        " and 29")
    | some subnetPrefix =>
      .ok {
        cidr := formatIpv4Address baseAddress ++ "/" ++ toString poolPrefix
        baseAddress := baseAddress
        subnetPrefix := subnetPrefix.toNat
        subnetSize := 2 ^ (32 - subnetPrefix.toNat)
        subnetCount := 2 ^ (subnetPrefix.toNat - poolPrefix) }

/-! ## Probes -/

/-- The code units of a text. -/
def charCodes (value : String) : List UInt32 :=
  value.toList.flatMap fun c =>
    if c.toNat < 0x10000 then [UInt32.ofNat c.toNat]
    else [UInt32.ofNat (0xd800 + (c.toNat - 0x10000) / 0x400), UInt32.ofNat (0xdc00 + (c.toNat - 0x10000) % 0x400)]

/-- `Math.imul` and `^` on 32 bits, whose signs do not matter as the result is made unsigned. -/
def stableHash (value : String) : Nat :=
  ((charCodes value).foldl (fun hash code => (hash ^^^ code) * 16777619) 2166136261).toNat

inductive NetworkPolicy
  | «private»
  | egress
  deriving DecidableEq

def NetworkPolicy.text : NetworkPolicy → String
  | .private => "private"
  | .egress => "egress"

def startIndex (pool : IPv4NetworkPool) (instanceId : String) (networkPolicy : NetworkPolicy) : Nat :=
  stableHash (instanceId ++ ":" ++ networkPolicy.text) % pool.subnetCount

def probeStep (pool : IPv4NetworkPool) (instanceId : String) (networkPolicy : NetworkPolicy) : Nat :=
  let step := (stableHash (instanceId ++ ":" ++ networkPolicy.text ++ ":probe") ||| 1) % pool.subnetCount
  if step = 0 then 1 else step

/-- The address of the subnet of an attempt. -/
def probedAddress (pool : IPv4NetworkPool) (start step attempt : Nat) : Nat :=
  pool.baseAddress + (start + attempt * step) % pool.subnetCount * pool.subnetSize

def subnetText (pool : IPv4NetworkPool) (address : Nat) : String :=
  formatIpv4Address address ++ "/" ++ toString pool.subnetPrefix

/-- A letter under `/iu`. -/
def foldCase (c : Char) : Char :=
  if c.toNat = 0x17f then 's' else if c.toNat = 0x212a then 'k' else c.toLower

def isLineTerminator (c : Char) : Bool :=
  c = '\n' || c = '\r' || c.toNat = 0x2028 || c.toNat = 0x2029

/-- `first.*second` on a line -/
def hasBoth (first second : String) (line : List Char) : Bool :=
  line.tails.any fun rest => first.toList <+: rest ∧ second.toList <:+: rest.drop first.toList.length

/-- `/pool overlaps|address pool.*(?:overlap|exhaust)|could not find an available.*address pool/iu` -/
def isPoolOverlap (message : String) : Bool :=
  let folded := message.toList.map foldCase
  "pool overlaps".toList <:+: folded ||
    (folded.splitOnP isLineTerminator).any fun line =>
      hasBoth "address pool" "overlap" line || hasBoth "address pool" "exhaust" line ||
        hasBoth "could not find an available" "address pool" line

/-- What Docker says: to the `n`-th inspection of the network, and to an attempt to create it in a subnet. -/
structure NetworkAnswers where
  inspect : Nat → Except String (Option String)
  create : Nat → String → Except String Unit

inductive NetworkError
  | docker (message : String)
  | exhausted (attempts : Nat)
  deriving DecidableEq

/-- The subnets that were tried, and how it ended. -/
structure Probing where
  tried : List String
  result : Except NetworkError String

/-- The attempts that are left, from one on. -/
def probeSubnets (pool : IPv4NetworkPool) (name : String) (start step : Nat) (answers : NetworkAnswers) :
    (left attempt : Nat) → Probing
  | 0, _ => ⟨[], .error (.exhausted pool.subnetCount)⟩
  | left + 1, attempt =>
    let subnet := subnetText pool (probedAddress pool start step attempt)
    match answers.create attempt subnet with
    | .ok () => ⟨[subnet], .ok name⟩
    | .error message =>
      match answers.inspect (attempt + 1) with
      | .error message => ⟨[subnet], .error (.docker message)⟩
      | .ok (some concurrent) => ⟨[subnet], .ok concurrent⟩
      | .ok none =>
        if isPoolOverlap message then
          let rest := probeSubnets pool name start step answers left (attempt + 1)
          ⟨subnet :: rest.tried, rest.result⟩
        else ⟨[subnet], .error (.docker message)⟩

/-- `#ensureManagedNetwork` -/
def ensureManagedNetwork (pool : IPv4NetworkPool) (name instanceId : String) (networkPolicy : NetworkPolicy)
    (answers : NetworkAnswers) : Probing :=
  match answers.inspect 0 with
  | .error message => ⟨[], .error (.docker message)⟩
  | .ok (some existing) => ⟨[], .ok existing⟩
  | .ok none =>
    probeSubnets pool name (startIndex pool instanceId networkPolicy) (probeStep pool instanceId networkPolicy) answers
      pool.subnetCount 0

/-! ## Reading what was written -/

theorem octetOf_toString : ∀ n < 256, octetOf (toString n).toList = some n := by
  decide +kernel

theorem dot_notMem_toString : ∀ n < 256, '.' ∉ (toString n).toList := by
  decide +kernel

/-- An address is read back as it was written. -/
theorem ipv4Address_format {address : Nat} (h : address < 2 ^ 32) :
    ipv4Address (formatIpv4Address address) = some address := by
  have hsmall : ∀ shift, address / 2 ^ shift % 256 < 256 := fun shift => Nat.mod_lt _ (by decide)
  unfold ipv4Address formatIpv4Address
  have hplain : ∀ part ∈ [24, 16, 8, 0].map (fun shift => (toString (address / 2 ^ shift % 256)).toList), '.' ∉ part := by
    intro part hpart
    obtain ⟨shift, -, rfl⟩ := List.mem_map.1 hpart
    exact dot_notMem_toString _ (hsmall shift)
  rw [String.toList_ofList, List.splitOn_intercalate '.' hplain (by simp)]
  simp only [List.map_cons, List.map_nil, List.foldlM_cons, List.foldlM_nil, octetOf_toString _ (hsmall _), Option.map_some,
    Option.bind_eq_bind, Option.bind_some, Option.pure_def, Option.some.injEq]
  omega

/-- A number is written without zeros before it. -/
def PlainOctet (cs : List Char) : Prop :=
  cs.head? = some '0' → cs = ['0']

/-- The last digit is read last. -/
theorem digits_concat {cs : List Char} {c : Char} {n : Nat} (h : digits (cs ++ [c]) = some n) :
    ∃ m, digits cs = some m ∧ c.isDigit = true ∧ n = 10 * m + (c.toNat - 48) := by
  unfold digits at h
  rw [List.foldl_append, List.foldl_cons, List.foldl_nil] at h
  obtain ⟨m, hm, hlast⟩ := Option.bind_eq_some_iff.1 h
  refine ⟨m, hm, ?_⟩
  split at hlast
  · next hdigit =>
    refine ⟨hdigit, ?_⟩
    have hn := Option.some.inj hlast
    simp only [show '0'.toNat = 48 from rfl] at hn
    omega
  · cases hlast

/-- A digit is the digit of its value. -/
theorem digitChar_of_isDigit {c : Char} (h : c.isDigit = true) :
    c.toNat - 48 < 10 ∧ (c.toNat - 48).digitChar = c := by
  have hrange : 48 ≤ c.toNat ∧ c.toNat ≤ 57 := by
    simp only [Char.isDigit, Bool.and_eq_true, decide_eq_true_eq, UInt32.le_iff_toNat_le] at h
    exact h
  have hall : ∀ n < 58, 48 ≤ n → n - 48 < 10 ∧ (n - 48).digitChar = Char.ofNat n := by decide +kernel
  have hc := hall c.toNat (by omega) hrange.1
  rwa [Char.ofNat_toNat] at hc

/-- Digits without zeros before them are what their number is written as. -/
theorem toDigits_of_digits {cs : List Char} {n : Nat} (h : digits cs = some n) (hnonempty : cs ≠ [])
    (hplain : PlainOctet cs) : Nat.toDigits 10 n = cs := by
  induction cs using List.reverseRecOn generalizing n with
  | nil => exact absurd rfl hnonempty
  | append_singleton cs c ih =>
    obtain ⟨m, hm, hdigit, rfl⟩ := digits_concat h
    obtain ⟨hlt, hchar⟩ := digitChar_of_isDigit hdigit
    by_cases hcs : cs = []
    · subst hcs
      obtain rfl := Option.some.inj hm
      rw [Nat.mul_zero, Nat.zero_add, Nat.toDigits_of_lt_base hlt, hchar, List.nil_append]
    · -- with more than one digit the first is no zero, and neither is the number
      have hhead : cs.head? ≠ some '0' := by
        intro hzero
        have hone := congrArg List.length (hplain (by rw [List.head?_append, hzero]; rfl))
        have hpos := List.length_pos_iff.2 hcs
        simp only [List.length_append, List.length_cons, List.length_nil] at hone
        omega
      have hwritten := ih hm hcs fun hzero => absurd hzero hhead
      have hpos : 0 < m := by
        rcases Nat.eq_zero_or_pos m with rfl | hpos
        · rw [← hwritten] at hhead
          exact absurd rfl hhead
        · exact hpos
      rw [← Nat.toDigits_append_toDigits (by decide) hpos hlt, hwritten, Nat.toDigits_of_lt_base hlt, hchar]

theorem toString_of_octetOf {cs : List Char} {n : Nat} (h : octetOf cs = some n) (hplain : PlainOctet cs) :
    (toString n).toList = cs := by
  unfold octetOf at h
  split at h
  · cases h
  · next hlength =>
    have hnonempty : cs ≠ [] := fun hnil => hlength (.inl (congrArg List.length hnil))
    have hdigits := (Option.filter_eq_some_iff.1 h).1
    rw [Nat.toString_eq_ofList_toDigits, String.toList_ofList]
    exact toDigits_of_digits hdigits hnonempty hplain

theorem octetOf_lt {cs : List Char} {n : Nat} (h : octetOf cs = some n) : n < 256 := by
  unfold octetOf at h
  split at h
  · cases h
  · have hle := (Option.filter_eq_some_iff.1 h).2
    simp only [decide_eq_true_eq] at hle
    omega

/-- A plain address is written as it was read. -/
theorem format_ipv4Address {text : String} {address : Nat} (h : ipv4Address text = some address)
    (hplain : ∀ part ∈ text.toList.splitOn '.', PlainOctet part) : formatIpv4Address address = text := by
  unfold ipv4Address at h
  split at h
  · next first second third fourth hparts =>
    rw [hparts] at hplain
    simp only [List.foldlM_cons, List.foldlM_nil, Option.bind_eq_bind, Option.pure_def, Option.bind_eq_some_iff,
      Option.map_eq_some_iff, Option.some.injEq] at h
    obtain ⟨_, ⟨a, ha, rfl⟩, _, ⟨b, hb, rfl⟩, _, ⟨c, hc, rfl⟩, _, ⟨d, hd, rfl⟩, rfl⟩ := h
    have hlt := octetOf_lt ha
    have hlt' := octetOf_lt hb
    have hlt'' := octetOf_lt hc
    have hlt''' := octetOf_lt hd
    have hfirst : ((((0 * 256 + a) * 256 + b) * 256 + c) * 256 + d) / 2 ^ 24 % 256 = a := by omega
    have hsecond : ((((0 * 256 + a) * 256 + b) * 256 + c) * 256 + d) / 2 ^ 16 % 256 = b := by omega
    have hthird : ((((0 * 256 + a) * 256 + b) * 256 + c) * 256 + d) / 2 ^ 8 % 256 = c := by omega
    have hfourth : ((((0 * 256 + a) * 256 + b) * 256 + c) * 256 + d) / 2 ^ 0 % 256 = d := by omega
    have htext : ['.'].intercalate [first, second, third, fourth] = text.toList := by
      rw [← hparts, List.intercalate_splitOn]
    unfold formatIpv4Address
    rw [List.map_cons, List.map_cons, List.map_cons, List.map_cons, List.map_nil, hfirst, hsecond, hthird, hfourth,
      toString_of_octetOf ha (hplain first (by simp)), toString_of_octetOf hb (hplain second (by simp)),
      toString_of_octetOf hc (hplain third (by simp)), toString_of_octetOf hd (hplain fourth (by simp)), htext,
      String.ofList_toList]
  · cases h

/-! ## Progressions -/

/-- A progression whose step has no divisor in common with the modulus takes every value once. -/
theorem progression_perm {n start step : Nat} (h : step.Coprime n) :
    ((List.range n).map fun i => (start + i * step) % n).Perm (List.range n) := by
  have hnodup : ((List.range n).map fun i => (start + i * step) % n).Nodup := by
    refine List.Nodup.map_on ?_ List.nodup_range
    intro i hi j hj heq
    have hsum : start + i * step ≡ start + j * step [MOD n] := heq
    have hproduct : i * step ≡ j * step [MOD n] := Nat.ModEq.add_left_cancel' start hsum
    have hindex : i ≡ j [MOD n] := Nat.ModEq.cancel_right_of_coprime (Nat.coprime_comm.1 h) hproduct
    exact Nat.ModEq.eq_of_lt_of_lt hindex (List.mem_range.1 hi) (List.mem_range.1 hj)
  have hsub : ((List.range n).map fun i => (start + i * step) % n) ⊆ List.range n := by
    intro value hvalue
    obtain ⟨i, hi, rfl⟩ := List.mem_map.1 hvalue
    exact List.mem_range.2 (Nat.mod_lt _ (Nat.zero_lt_of_lt (List.mem_range.1 hi)))
  exact (List.subperm_of_subset hnodup hsub).perm_of_length_le (by simp)

/-! ## Pools -/

variable {cidr variablePrefix : String} {subnetPrefix : Option Int} {pool : IPv4NetworkPool} {poolPrefix : Nat}

/-- What an accepted pool is: a block of some addresses, cut into two subnets or more. -/
structure CutsBlock (pool : IPv4NetworkPool) (poolPrefix : Nat) : Prop where
  narrower : poolPrefix < pool.subnetPrefix
  widest : pool.subnetPrefix ≤ 29
  subnetSize : pool.subnetSize = 2 ^ (32 - pool.subnetPrefix)
  subnetCount : pool.subnetCount = 2 ^ (pool.subnetPrefix - poolPrefix)
  aligned : 2 ^ (32 - poolPrefix) ∣ pool.baseAddress
  bounded : pool.baseAddress + 2 ^ (32 - poolPrefix) ≤ 2 ^ 32

theorem lt_of_privateIpv4Range {first last : Nat} (h : privateIpv4Range first last = true) : last < 2 ^ 32 := by
  have hends : ∀ range ∈ [("10.0.0.0", "10.255.255.255"), ("172.16.0.0", "172.31.255.255"),
      ("192.168.0.0", "192.168.255.255")], ∀ limit ∈ ipv4Address range.2, limit < 2 ^ 32 := by decide +kernel
  obtain ⟨range, hrange, hinside⟩ := List.any_eq_true.1 h
  rw [Bool.and_eq_true, Option.any_eq_true] at hinside
  obtain ⟨-, hlast⟩ := hinside
  rw [Option.any_eq_true] at hlast
  obtain ⟨limit, hlimit, hle⟩ := hlast
  exact Nat.lt_of_le_of_lt (by simpa using hle) (hends range hrange limit hlimit)

theorem readBlock_aligned {baseAddress : Nat} (h : readBlock cidr = some (baseAddress, poolPrefix)) :
    2 ^ (32 - poolPrefix) ∣ baseAddress ∧ baseAddress + 2 ^ (32 - poolPrefix) ≤ 2 ^ 32 := by
  unfold readBlock at h
  split at h
  · split at h
    · dsimp only at h
      split at h
      · next hblock =>
        obtain ⟨-, -, -, hprivate⟩ := hblock
        obtain ⟨hbase, hwritten⟩ := Prod.mk.inj (Option.some.inj h)
        subst hwritten hbase
        refine ⟨Dvd.intro_left _ rfl, ?_⟩
        exact Nat.le_of_pred_lt (lt_of_privateIpv4Range hprivate)
      · cases h
    · cases h
  · cases h

theorem parseNetworkPool_ok (h : parseNetworkPool cidr subnetPrefix variablePrefix = .ok pool) :
    subnetPrefix = some (pool.subnetPrefix : Int) ∧
      ∃ poolPrefix, readBlock cidr = some (pool.baseAddress, poolPrefix) ∧ CutsBlock pool poolPrefix := by
  unfold parseNetworkPool at h
  split at h
  · cases h
  · next baseAddress poolPrefix hread =>
    split at h
    · cases h
    · next accepted haccepted =>
      obtain ⟨hwritten, hrange⟩ := Option.filter_eq_some_iff.1 haccepted
      simp only [decide_eq_true_eq] at hrange
      obtain rfl := Except.ok.inj h
      obtain ⟨haligned, hbounded⟩ := readBlock_aligned hread
      refine ⟨?_, poolPrefix, hread, ?_, ?_, rfl, rfl, haligned, hbounded⟩
      · rw [hwritten, Int.toNat_of_nonneg (by omega)]
      · dsimp only
        omega
      · dsimp only
        omega

/-- The address belongs to the block. -/
def InBlock (pool : IPv4NetworkPool) (poolPrefix address : Nat) : Prop :=
  pool.baseAddress ≤ address ∧ address < pool.baseAddress + 2 ^ (32 - poolPrefix)

/-- The address is where a subnet of the block starts: a multiple of its size, with the whole of it inside. -/
def IsSubnet (pool : IPv4NetworkPool) (poolPrefix address : Nat) : Prop :=
  2 ^ (32 - pool.subnetPrefix) ∣ address ∧
    ∀ offset < 2 ^ (32 - pool.subnetPrefix), InBlock pool poolPrefix (address + offset)

namespace CutsBlock

variable (h : CutsBlock pool poolPrefix)

include h

theorem size_mul_count : pool.subnetSize * pool.subnetCount = 2 ^ (32 - poolPrefix) := by
  have hnarrower := h.narrower
  have hwidest := h.widest
  rw [h.subnetSize, h.subnetCount, ← Nat.pow_add]
  congr 1
  omega

theorem inBlock_lt {address : Nat} (haddress : InBlock pool poolPrefix address) : address < 2 ^ 32 :=
  Nat.lt_of_lt_of_le haddress.2 h.bounded

/-- The subnets of a block are numbered. -/
theorem isSubnet_iff {address : Nat} :
    IsSubnet pool poolPrefix address ↔
      ∃ index < pool.subnetCount, pool.baseAddress + index * pool.subnetSize = address := by
  have hsize : 0 < pool.subnetSize := h.subnetSize ▸ Nat.two_pow_pos _
  have htotal := h.size_mul_count
  have hbase : pool.subnetSize ∣ pool.baseAddress :=
    Dvd.dvd.trans (Dvd.intro _ htotal) h.aligned
  unfold IsSubnet InBlock
  rw [← h.subnetSize, ← htotal]
  constructor
  · rintro ⟨haligned, hinside⟩
    obtain ⟨hle, -⟩ := hinside 0 hsize
    obtain ⟨index, hindex⟩ := Nat.dvd_sub haligned hbase
    have haddress : pool.baseAddress + index * pool.subnetSize = address := by
      rw [Nat.mul_comm] at hindex
      omega
    refine ⟨index, ?_, haddress⟩
    obtain ⟨-, hlt⟩ := hinside 0 hsize
    have hlt' : pool.subnetSize * index < pool.subnetSize * pool.subnetCount := by
      rw [Nat.mul_comm pool.subnetSize index]
      omega
    exact Nat.lt_of_mul_lt_mul_left hlt'
  · rintro ⟨index, hindex, rfl⟩
    refine ⟨(Nat.dvd_add_right hbase).2 (Dvd.intro_left _ rfl), fun offset hoffset => ⟨by omega, ?_⟩⟩
    have hle : (index + 1) * pool.subnetSize ≤ pool.subnetSize * pool.subnetCount := by
      rw [Nat.mul_comm pool.subnetSize]
      exact Nat.mul_le_mul_right _ hindex
    rw [Nat.add_mul] at hle
    omega

/-- The step is odd, and the number of subnets a power of two. -/
theorem probeStep_coprime (instanceId : String) (networkPolicy : NetworkPolicy) :
    (probeStep pool instanceId networkPolicy).Coprime pool.subnetCount := by
  have hnarrower := h.narrower
  have htwo : 2 ∣ pool.subnetCount := by
    rw [h.subnetCount]
    exact dvd_pow_self 2 (by omega)
  have hodd : (stableHash (instanceId ++ ":" ++ networkPolicy.text ++ ":probe") ||| 1) % pool.subnetCount % 2 = 1 := by
    rw [Nat.mod_mod_of_dvd _ htwo, Nat.or_mod_two_eq_one]
    exact .inr rfl
  unfold probeStep
  dsimp only
  rw [if_neg fun hzero => by simp [hzero] at hodd]
  have hcoprime := Nat.coprime_two_right.2 (Nat.odd_iff.2 hodd)
  rw [h.subnetCount] at hcoprime ⊢
  exact hcoprime.pow_right _

end CutsBlock

/-- All attempts together are for every subnet, each once. -/
theorem probed_perm (start : Nat) {step : Nat} (hstep : step.Coprime pool.subnetCount) :
    ((List.range pool.subnetCount).map (probedAddress pool start step)).Perm
      ((List.range pool.subnetCount).map fun index => pool.baseAddress + index * pool.subnetSize) := by
  have hperm := (@progression_perm pool.subnetCount start step hstep).map fun index => pool.baseAddress + index * pool.subnetSize
  rwa [List.map_map] at hperm

theorem subnetText_inj {address other : Nat} (haddress : address < 2 ^ 32) (hother : other < 2 ^ 32)
    (heq : subnetText pool address = subnetText pool other) : address = other := by
  have hformat : formatIpv4Address address = formatIpv4Address other := by
    have hlist := congrArg String.toList heq
    simp only [subnetText, String.toList_append] at hlist
    exact String.toList_inj.1 (List.append_cancel_right (List.append_cancel_right hlist))
  have hread := ipv4Address_format haddress
  rw [hformat, ipv4Address_format hother] at hread
  exact (Option.some.inj hread).symm

/-! ## Runs -/

/-- An attempt that Docker refused because the subnet is taken, while no network of that name has come up. -/
def RefusesSubnet (answers : NetworkAnswers) (attempt : Nat) (subnet : String) : Prop :=
  ∃ message, answers.create attempt subnet = .error message ∧ isPoolOverlap message = true ∧
    answers.inspect (attempt + 1) = .ok none

/-- The network is not there, and every attempt is refused. -/
structure AllOverlap (answers : NetworkAnswers) : Prop where
  missing : answers.inspect 0 = .ok none
  refused : ∀ attempt subnet, RefusesSubnet answers attempt subnet

variable {answers : NetworkAnswers} {name instanceId : String} {networkPolicy : NetworkPolicy} {start step : Nat}

theorem probeSubnets_refused {left attempt : Nat}
    (h : RefusesSubnet answers attempt (subnetText pool (probedAddress pool start step attempt))) :
    probeSubnets pool name start step answers (left + 1) attempt =
      ⟨subnetText pool (probedAddress pool start step attempt) ::
          (probeSubnets pool name start step answers left (attempt + 1)).tried,
        (probeSubnets pool name start step answers left (attempt + 1)).result⟩ := by
  obtain ⟨message, hcreate, hoverlap, hinspect⟩ := h
  rw [probeSubnets]
  simp only [hcreate, hinspect, hoverlap, if_true]

theorem probeSubnets_allOverlap (h : AllOverlap answers) (left attempt : Nat) :
    probeSubnets pool name start step answers left attempt =
      ⟨(List.range' attempt left).map fun n => subnetText pool (probedAddress pool start step n),
        .error (.exhausted pool.subnetCount)⟩ := by
  induction left generalizing attempt with
  | zero => rfl
  | succ left ih => rw [probeSubnets_refused (h.refused _ _), ih, List.range'_succ, List.map_cons]

/-- The pool is given up only after every attempt that was left was refused. -/
theorem refuses_of_exhausted {left attempt attempts : Nat}
    (h : (probeSubnets pool name start step answers left attempt).result = .error (.exhausted attempts)) :
    ∀ n, attempt ≤ n → n < attempt + left → RefusesSubnet answers n (subnetText pool (probedAddress pool start step n)) := by
  induction left generalizing attempt with
  | zero =>
    intro n hle hlt
    omega
  | succ left ih =>
    have hrefused : RefusesSubnet answers attempt (subnetText pool (probedAddress pool start step attempt)) := by
      rw [probeSubnets] at h
      dsimp only at h
      split at h
      · cases h
      · next message hcreate =>
        split at h
        · cases h
        · cases h
        · next hinspect =>
          split at h
          · next hoverlap => exact ⟨message, hcreate, hoverlap, hinspect⟩
          · cases h
    rw [probeSubnets_refused hrefused] at h
    intro n hle hlt
    rcases Nat.eq_or_lt_of_le hle with rfl | hlater
    · exact hrefused
    · exact ih h n hlater (by omega)

/-! ## The whole pool -/

/-- Every subnet of the block, once. -/
structure CoversPool (pool : IPv4NetworkPool) (poolPrefix : Nat) (subnets : List String) : Prop where
  distinct : subnets.Nodup
  exactly : ∀ subnet, subnet ∈ subnets ↔ ∃ address, IsSubnet pool poolPrefix address ∧ subnetText pool address = subnet

/-- What is promised of the probes in a pool. -/
structure ProbesPool (pool : IPv4NetworkPool) (poolPrefix : Nat) (name instanceId : String)
    (networkPolicy : NetworkPolicy) : Prop where
  covers : ∀ answers, AllOverlap answers →
    CoversPool pool poolPrefix (ensureManagedNetwork pool name instanceId networkPolicy answers).tried
  exhausted : ∀ answers attempts,
    (ensureManagedNetwork pool name instanceId networkPolicy answers).result = .error (.exhausted attempts) →
      ∀ address, IsSubnet pool poolPrefix address → ∃ attempt, RefusesSubnet answers attempt (subnetText pool address)
  readBack : ∀ address, InBlock pool poolPrefix address → ipv4Address (formatIpv4Address address) = some address
  writtenBack : ∀ text address, ipv4Address text = some address → InBlock pool poolPrefix address →
    (∀ part ∈ text.toList.splitOn '.', PlainOctet part) → formatIpv4Address address = text

theorem probesPool_of_cutsBlock (h : CutsBlock pool poolPrefix) (name instanceId : String) (networkPolicy : NetworkPolicy) :
    ProbesPool pool poolPrefix name instanceId networkPolicy := by
  have hperm := probed_perm (startIndex pool instanceId networkPolicy) (h.probeStep_coprime instanceId networkPolicy)
  -- what is probed are the subnets
  have hprobed : ∀ address, IsSubnet pool poolPrefix address ↔ ∃ attempt < pool.subnetCount,
      probedAddress pool (startIndex pool instanceId networkPolicy) (probeStep pool instanceId networkPolicy) attempt =
        address := by
    intro address
    have hmem := hperm.mem_iff (a := address)
    simp only [List.mem_map, List.mem_range] at hmem
    rw [h.isSubnet_iff, hmem]
  have hlt : ∀ address, IsSubnet pool poolPrefix address → address < 2 ^ 32 := fun address haddress =>
    h.inBlock_lt (haddress.2 0 (Nat.two_pow_pos _))
  refine ⟨?_, ?_, ?_, ?_⟩
  · intro answers hoverlap
    unfold ensureManagedNetwork
    rw [hoverlap.missing]
    dsimp only
    rw [probeSubnets_allOverlap hoverlap, ← List.range_eq_range']
    have hmap : ((List.range pool.subnetCount).map fun n => subnetText pool (probedAddress pool
        (startIndex pool instanceId networkPolicy) (probeStep pool instanceId networkPolicy) n)) =
        ((List.range pool.subnetCount).map (probedAddress pool (startIndex pool instanceId networkPolicy)
          (probeStep pool instanceId networkPolicy))).map (subnetText pool) := by
      rw [List.map_map]
      rfl
    constructor
    · dsimp only
      rw [hmap]
      refine List.Nodup.map_on ?_ (hperm.nodup_iff.2 ?_)
      · intro address haddress other hother heq
        simp only [List.mem_map, List.mem_range] at haddress hother
        exact subnetText_inj (hlt _ ((hprobed _).2 haddress)) (hlt _ ((hprobed _).2 hother)) heq
      · refine List.Nodup.map_on ?_ List.nodup_range
        intro index _ other _ heq
        have hsize : 0 < pool.subnetSize := h.subnetSize ▸ Nat.two_pow_pos _
        exact Nat.eq_of_mul_eq_mul_right hsize (Nat.add_left_cancel heq)
    · intro subnet
      simp only [List.mem_map, List.mem_range, hprobed]
      constructor
      · rintro ⟨attempt, hattempt, rfl⟩
        exact ⟨_, ⟨attempt, hattempt, rfl⟩, rfl⟩
      · rintro ⟨_, ⟨attempt, hattempt, rfl⟩, rfl⟩
        exact ⟨attempt, hattempt, rfl⟩
  · intro answers attempts hresult address haddress
    unfold ensureManagedNetwork at hresult
    split at hresult
    · cases hresult
    · cases hresult
    · obtain ⟨attempt, hattempt, rfl⟩ := (hprobed address).1 haddress
      exact ⟨attempt, refuses_of_exhausted hresult attempt (Nat.zero_le _) (by omega)⟩
  · intro address haddress
    exact ipv4Address_format (h.inBlock_lt haddress)
  · intro text address hread _ hplain
    exact format_ipv4Address hread hplain

/-- In every pool that is accepted all subnets are probed, each once, before the pool is given up. -/
theorem probing_covers_pool (h : parseNetworkPool cidr subnetPrefix variablePrefix = .ok pool)
    (name instanceId : String) (networkPolicy : NetworkPolicy) :
    subnetPrefix = some (pool.subnetPrefix : Int) ∧
      ∃ poolPrefix, readBlock cidr = some (pool.baseAddress, poolPrefix) ∧
        ProbesPool pool poolPrefix name instanceId networkPolicy := by
  obtain ⟨hwritten, poolPrefix, hread, hcuts⟩ := parseNetworkPool_ok h
  exact ⟨hwritten, poolPrefix, hread, probesPool_of_cutsBlock hcuts name instanceId networkPolicy⟩

/-- The pool of the default configuration. -/
def defaultPool : IPv4NetworkPool where
  cidr := "10.240.0.0/12"
  baseAddress := 183500800
  subnetPrefix := 28
  subnetSize := 16
  subnetCount := 65536

theorem default_pool_covered :
    some 28 = some (defaultPool.subnetPrefix : Int) ∧
      ∃ poolPrefix, readBlock "10.240.0.0/12" = some (defaultPool.baseAddress, poolPrefix) ∧
        ProbesPool defaultPool poolPrefix "openapp-7f-egress" "7f" .egress :=
  probing_covers_pool (by decide +kernel : parseNetworkPool "10.240.0.0/12" (some 28) "OPENAPP" = .ok defaultPool)
    "openapp-7f-egress" "7f" .egress

end OpenApp.Docker
