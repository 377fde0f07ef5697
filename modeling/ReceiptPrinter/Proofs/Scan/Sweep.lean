/-
The hosts of a sweep, and what is to be found on them.

`hosts` gives exactly the other hosts of the network, in ascending order, and
`devices` exactly what there is to find.
-/
import ReceiptPrinter.Scan.Finding
import Mathlib.Data.List.Pairwise

namespace ReceiptPrinter.Scan

open Net (Address)

-- ================================================================= hosts

theorem mem_hosts {own host : Address} : host ∈ hosts own ↔ Neighbours own host := by
  rw [hosts, List.mem_map]
  constructor
  · rintro ⟨n, hn, rfl⟩
    rw [List.mem_filter, List.mem_range, bne_iff_ne] at hn
    refine ⟨rfl, rfl, rfl, fun heq => hn.2 ?_⟩
    rw [← heq]
    exact (Nat.mod_eq_of_lt hn.1).symm
  · obtain ⟨a, b, c, octet⟩ := host
    rintro ⟨rfl, rfl, rfl, hne⟩
    refine ⟨octet.toNat, ?_, ?_⟩
    · rw [List.mem_filter, List.mem_range, bne_iff_ne]
      exact ⟨octet.toNat_lt, fun heq => hne (UInt8.toNat_inj.mp heq)⟩
    · simp

theorem hosts_ascending (own : Address) : (hosts own).Pairwise (·.host < ·.host) := by
  rw [hosts, List.pairwise_map]
  refine List.Pairwise.imp_of_mem ?_ (List.pairwise_lt_range.filter _)
  intro m n hm hn hlt
  have hbound : ∀ {k}, k ∈ (List.range 256).filter (· != own.host.toNat) → k < 256 := fun hk =>
    List.mem_range.mp (List.mem_filter.mp hk).1
  show m.toUInt8 < n.toUInt8
  rw [UInt8.lt_iff_toNat_lt]
  show m % 256 < n % 256
  rwa [Nat.mod_eq_of_lt (hbound hm), Nat.mod_eq_of_lt (hbound hn)]

theorem nodup_hosts (own : Address) : (hosts own).Nodup := by
  refine List.Pairwise.imp (fun {first second} hlt => ?_) (hosts_ascending own)
  rintro rfl
  exact UInt8.lt_irrefl _ hlt

theorem length_hosts (own : Address) : (hosts own).length = 255 := by
  have hmem : own.host.toNat ∈ List.range 256 := List.mem_range.mpr own.host.toNat_lt
  have herase := List.nodup_range.erase_eq_filter own.host.toNat (l := List.range 256)
  rw [hosts, List.length_map, ← herase, List.length_erase_of_mem hmem, List.length_range]

-- ======================================================== a single host

variable {reach : Reach} {ports : List UInt16} {host : Address}

theorem find?_iff_firstOpen {port : UInt16} :
    ports.find? (reach host) = some port ↔ FirstOpen reach ports host port := by
  rw [List.find?_eq_some_iff_append]
  simp only [Bool.not_eq_true', FirstOpen]
  constructor
  · rintro ⟨hport, before, after, h, hbefore⟩
    exact ⟨before, after, h, hport, hbefore⟩
  · rintro ⟨before, after, h, hport, hbefore⟩
    exact ⟨hport, before, after, h, hbefore⟩

theorem device?_of_first {port : UInt16} (h : FirstOpen reach ports host port) :
    device? reach ports host = some ⟨host.text, port⟩ := by
  rw [device?, find?_iff_firstOpen.mpr h]
  rfl

theorem device?_of_silent (h : ∀ port ∈ ports, reach host port = false) :
    device? reach ports host = none := by
  rw [device?, List.find?_eq_none.mpr (by simpa using h)]
  rfl

theorem tried_cons {port : UInt16} : tried reach (port :: ports) host
    = if reach host port then [port] else port :: tried reach ports host := by
  rw [tried, List.findIdx_cons]
  cases reach host port <;> rfl

theorem tried_of_first {before after : List UInt16} {port : UInt16}
    (hport : reach host port = true) (hbefore : ∀ earlier ∈ before, reach host earlier = false) :
    tried reach (before ++ port :: after) host = before ++ [port] := by
  induction before with
  | nil => rw [List.nil_append, tried_cons, if_pos hport, List.nil_append]
  | cons first before ih =>
    have hfirst := hbefore first List.mem_cons_self
    rw [List.cons_append, tried_cons, if_neg (Bool.eq_false_iff.mp hfirst),
      ih fun earlier hmem => hbefore earlier (List.mem_cons_of_mem _ hmem), List.cons_append]

theorem tried_of_silent (h : ∀ port ∈ ports, reach host port = false) :
    tried reach ports host = ports := by
  induction ports with
  | nil => rfl
  | cons first ports ih =>
    have hfirst := h first List.mem_cons_self
    rw [tried_cons, if_neg (Bool.eq_false_iff.mp hfirst),
      ih fun port hmem => h port (List.mem_cons_of_mem _ hmem)]

theorem tried_exhausts (reach : Reach) (ports : List UInt16) (host : Address) :
    Exhausts reach ports host (tried reach ports host) := by
  cases hfind : ports.find? (reach host) with
  | none =>
    have hsilent : ∀ port ∈ ports, reach host port = false := by
      simpa using List.find?_eq_none.mp hfind
    rw [tried_of_silent hsilent]
    exact .silent hsilent
  | some port =>
    obtain ⟨before, after, rfl, hport, hbefore⟩ := find?_iff_firstOpen.mp hfind
    rw [tried_of_first hport hbefore]
    exact .found rfl hport hbefore

-- =============================================================== devices

/-- The devices of a sweep are what it has to find. -/
theorem devices_finds (reach : Reach) (ports : List UInt16) (own : Address) :
    Finds reach ports own (devices reach ports own) := by
  refine ⟨(hosts own).filterMap fun host => (ports.find? (reach host)).map (host, ·), ?_, ?_, ?_⟩
  · rw [devices, List.map_filterMap]
    congr 1
    funext host
    rw [device?, Option.map_map]
    rfl
  · refine (hosts_ascending own).filterMap _ fun first second hlt x hx y hy => ?_
    obtain ⟨port, -, rfl⟩ := Option.map_eq_some_iff.mp hx
    obtain ⟨port', -, rfl⟩ := Option.map_eq_some_iff.mp hy
    exact hlt
  · intro host port
    simp [mem_hosts, ← find?_iff_firstOpen]

/-- The hosts of one network differ in their texts. -/
theorem text_injective {own first second : Address} (hfirst : Neighbours own first)
    (hsecond : Neighbours own second) (h : first.text = second.text) : first = second := by
  obtain ⟨a, b, c, octet⟩ := first
  obtain ⟨a', b', c', octet'⟩ := second
  obtain ⟨rfl, rfl, rfl, -⟩ := hfirst
  obtain ⟨rfl, rfl, rfl, -⟩ := hsecond
  have hoctets : toString octet.toNat = toString octet'.toNat := by
    simpa only [Address.text, String.append_right_inj, String.append_left_inj] using h
  rw [Nat.toString_eq_ofList_toDigits, Nat.toString_eq_ofList_toDigits,
    String.ofList_inj] at hoctets
  have hread := congrArg (Nat.ofDigitChars 10 · 0) hoctets
  rw [Nat.ofDigitChars_ten_toDigits, Nat.ofDigitChars_ten_toDigits] at hread
  rw [UInt8.toNat_inj.mp hread]

/-- No host is found twice. -/
theorem Finds.nodup {own : Address} {found : List NetIdentity} (h : Finds reach ports own found) :
    (found.map (·.host)).Nodup := by
  obtain ⟨devices, rfl, hascending, hmem⟩ := h
  rw [List.map_map, List.nodup_iff_pairwise_ne, List.pairwise_map]
  refine hascending.imp_of_mem fun {first second} hfirst hsecond hlt heq => ?_
  have hsame := text_injective ((hmem _ _).mp hfirst).1 ((hmem _ _).mp hsecond).1 heq
  rw [hsame] at hlt
  exact UInt8.lt_irrefl _ hlt

end ReceiptPrinter.Scan
