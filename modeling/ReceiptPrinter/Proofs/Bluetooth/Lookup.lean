/-
Finding the node that is bound to an address.

The reader looks for the address on each line as it would for any text. It is
found in one place only, in the field of the address: all colons of a line but
the first are there, and behind the first one comes a blank, which no address
has. So no line of another device is taken for that of the device, and the first
line that is taken is the first one of the device.
-/
import ReceiptPrinter.Bluetooth.Listing
import ReceiptPrinter.Bluetooth.Row
import ReceiptPrinter.Proofs.Device.Address
import ReceiptPrinter.Proofs.Text.Blank
import ReceiptPrinter.Proofs.Text.Split
import Mathlib.Data.List.Basic

namespace ReceiptPrinter.Bluetooth

variable {mac own line text : List Char}

-- ============================================================== the reader

/-- The node on a line, if the address is found there. -/
def boundNode? (mac line : List Char) : Option String :=
  if Text.contains (Text.upper mac) (Text.upper line) then some (nodeOfLine line) else none

theorem binding?_eq (text mac : List Char) :
    binding? text mac = ((Text.lines text).filterMap (boundNode? mac)).head? := by
  unfold binding?
  induction Text.lines text with
  | nil => rfl
  | cons line rest ih =>
    rw [List.find?_cons, List.filterMap_cons]
    unfold boundNode?
    cases Text.contains (Text.upper mac) (Text.upper line) with
    | true => rfl
    | false => exact ih

theorem nodeOfLine_eq (line : List Char) :
    nodeOfLine line = "/dev/" ++ String.ofList (Text.trim (line.takeWhile (· ≠ ':'))) := by
  unfold nodeOfLine
  rw [Text.head?_splitAt]
  rfl

/-- A carriage return at the end of a line is trimmed away, or stands behind the
colon. -/
theorem nodeOfLine_concat_return (line : List Char) :
    nodeOfLine (line ++ ['\r']) = nodeOfLine line := by
  rw [nodeOfLine_eq, nodeOfLine_eq, List.takeWhile_append]
  split
  · next hlength =>
    have hwhole : line.takeWhile (· ≠ ':') = line := (List.takeWhile_prefix _).eq_of_length hlength
    rw [hwhole]
    exact congrArg (fun node => "/dev/" ++ String.ofList node)
      (Text.trim_append line Text.blank_return)
  · rfl

/-- There is no carriage return in an address. -/
theorem found_concat_return (hmac : IsAddress mac) (line : List Char) :
    Text.contains (Text.upper mac) (Text.upper (line ++ ['\r']))
      = Text.contains (Text.upper mac) (Text.upper line) := by
  have hreturn : '\r' ∉ Text.upper mac := fun hmem =>
    absurd (hmac.upper.mem hmem) (by decide)
  have hupper : Text.upper (line ++ ['\r']) = Text.upper line ++ ['\r'] := Text.upper_append line ['\r']
  rw [Bool.eq_iff_iff, Text.contains_iff, Text.contains_iff, hupper]
  constructor
  · intro h
    rcases Text.infix_of_infix_append_cons hreturn h with hline | hnothing
    · exact hline
    · rw [List.infix_nil.mp hnothing]
      exact List.nil_infix
  · intro h
    exact h.trans (List.prefix_append _ _).isInfix

theorem lineReader_boundNode? (hmac : IsAddress mac) : Text.LineReader (boundNode? mac) where
  empty := by
    unfold boundNode?
    rw [if_neg]
    rw [Text.contains_iff]
    exact fun h => hmac.upper.ne_nil (List.infix_nil.mp h)
  concat_return line := by
    unfold boundNode?
    rw [found_concat_return hmac, nodeOfLine_concat_return]

-- =============================================================== the place

/-- Where there are no colons but those of an address, there is no address in
any other place. -/
theorem eq_of_no_more_colons {front tail start stop : List Char} (hown : IsAddress own)
    (hmac : IsAddress mac) (hfront : ':' ∉ front) (htail : ':' ∉ tail)
    (h : front ++ own ++ tail = start ++ mac ++ stop) : start = front ∧ own = mac := by
  have hcount := congrArg (List.count ':') h
  simp only [List.count_append, hown.count_colon, hmac.count_colon,
    List.count_eq_zero.mpr hfront, List.count_eq_zero.mpr htail] at hcount
  have hstart : ':' ∉ start := List.count_eq_zero.mp (by omega)
  have hlength : own.length = mac.length := hown.length_eq.trans hmac.length_eq.symm
  obtain ⟨first, digit, rest, hfirst, -, rfl⟩ := hown.exists_first
  obtain ⟨pair, digit', rest', hpair, -, rfl⟩ := hmac.exists_first
  -- so the first colon is that of the one address and that of the other
  have hcut : front ++ first ++ ':' :: (digit :: rest ++ tail)
      = start ++ pair ++ ':' :: (digit' :: rest' ++ stop) := by simpa using h
  have hleft : ':' ∉ front ++ first := by simp [hfront, hfirst.colon_not_mem]
  have hright : ':' ∉ start ++ pair := by simp [hstart, hpair.colon_not_mem]
  obtain ⟨hbefore, hbehind⟩ := Text.eq_of_first_mark hleft hright hcut
  have hsize : first.length = pair.length := hfirst.length_eq.trans hpair.length_eq.symm
  obtain ⟨rfl, rfl⟩ := List.append_inj' hbefore hsize
  have hremain : (digit :: rest).length = (digit' :: rest').length := by
    simp only [List.length_append, List.length_cons] at hlength ⊢
    omega
  rw [(List.append_inj hbehind hremain).1]
  exact ⟨rfl, rfl⟩

/-- The colon of a binding is too far from those of the address to be one of an
address itself: a blank is behind it. -/
theorem eq_of_colon_blank {front tail start stop : List Char} (hown : IsAddress own)
    (hmac : IsAddress mac) (hfront : ':' ∉ front) (htail : ':' ∉ tail)
    (h : front ++ ':' :: ' ' :: (own ++ tail) = start ++ mac ++ stop) :
    start = front ++ [':', ' '] ∧ own = mac := by
  by_cases hcolon : ':' ∈ start
  · obtain ⟨before, after, rfl, hbefore⟩ := List.eq_append_cons_of_mem hcolon
    have hcut : front ++ ':' :: ([' '] ++ own ++ tail) = before ++ ':' :: (after ++ mac ++ stop) := by
      simpa using h
    obtain ⟨rfl, hrest⟩ := Text.eq_of_first_mark hfront hbefore hcut
    obtain ⟨rfl, hsame⟩ := eq_of_no_more_colons hown hmac (by decide) htail hrest
    exact ⟨rfl, hsame⟩
  · -- the first colon of the address would be this one
    obtain ⟨pair, digit, rest, hpair, hdigit, rfl⟩ := hmac.exists_first
    have hcut : front ++ ':' :: ' ' :: (own ++ tail)
        = start ++ pair ++ ':' :: (digit :: rest ++ stop) := by simpa using h
    have hbefore : ':' ∉ start ++ pair := by simp [hcolon, hpair.colon_not_mem]
    obtain ⟨-, hbehind⟩ := Text.eq_of_first_mark hfront hbefore hcut
    rw [← (List.cons.inj hbehind).1] at hdigit
    exact absurd hdigit (by decide)

-- ================================================================= a line

namespace Entry

variable {node details : List Char} {entry : Entry}

/-- Wherever an address is found on the line of a binding, it is found in the
field of the address, and it is the one that stands there. -/
theorem eq_of_found (h : (binding node own details).WellFormed) (hmac : IsAddress mac)
    {start stop : List Char}
    (hfound : Text.upper (binding node own details).line = start ++ Text.upper mac ++ stop) :
    start = Text.upper (node ++ [':', ' ']) ∧ (binding node own details).Binds mac := by
  obtain ⟨⟨-, hnode⟩, hown, hdetails⟩ := h.form
  have hascii {c : Char} (hc : c ∈ node ∨ c ∈ details) : c.toNat < 128 := by
    apply h.ascii
    rcases hc with hc | hc <;> simp [line, hc]
  have hfront : ':' ∉ Text.upper node :=
    colon_not_mem_upper (fun c hc => hascii (.inl hc)) fun hmem => (hnode _ hmem).1 rfl
  have htail : ':' ∉ ' ' :: Text.upper details := by
    simp [colon_not_mem_upper (fun c hc => hascii (.inr hc)) hdetails]
  have hupper : Text.upper (binding node own details).line
      = Text.upper node ++ ':' :: ' ' :: (Text.upper own ++ ' ' :: Text.upper details) := by
    unfold line
    rw [Text.upper_append, Text.upper_cons, Text.upper_cons, Text.upper_append, Text.upper_cons]
    rfl
  rw [hupper] at hfound
  obtain ⟨hstart, hsame⟩ := eq_of_colon_blank hown.upper hmac.upper hfront htail hfound
  refine ⟨?_, (Text.upper_eq_iff hown.ascii hmac.ascii).mp hsame⟩
  rw [hstart, Text.upper_append]
  rfl

/-- The search finds the lines of the device, and no others. -/
theorem contains_iff (h : entry.WellFormed) (hmac : IsAddress mac) :
    Text.contains (Text.upper mac) (Text.upper entry.line) = true ↔ entry.Binds mac := by
  rw [Text.contains_iff]
  constructor
  · intro hoccurs
    obtain ⟨start, stop, hfound⟩ := hoccurs
    cases entry with
    | binding node own details => exact (eq_of_found h hmac hfound.symm).2
    | other line =>
      -- in other letter case, the address stands on the line itself
      rw [Text.upper_of_ascii h.ascii, hmac.upper_eq, eq_comm] at hfound
      obtain ⟨front, tail, rfl, hfront, -⟩ := List.map_eq_append_iff.mp hfound
      obtain ⟨before, piece, rfl, -, hpiece⟩ := List.map_eq_append_iff.mp hfront
      have haddress : IsAddress piece := by
        rw [← IsAddress.toUpper_iff, hpiece]
        exact hmac.toUpper
      exact absurd ⟨before, tail, rfl⟩ (h.form piece haddress)
  · intro hbinds
    cases entry with
    | other line => exact absurd hbinds id
    | binding node own details =>
      have hsame : Text.upper own = Text.upper mac :=
        (Text.upper_eq_iff h.form.2.1.ascii hmac.ascii).mpr hbinds
      refine ⟨Text.upper (node ++ [':', ' ']), Text.upper (' ' :: details), ?_⟩
      rw [← hsame, ← Text.upper_append, ← Text.upper_append]
      simp [line]

theorem nodeOfLine_binding (h : (binding node own details).WellFormed) :
    nodeOfLine (binding node own details).line = "/dev/" ++ String.ofList node := by
  obtain ⟨⟨-, hnode⟩, -⟩ := h.form
  have hfront : (binding node own details).line.takeWhile (· ≠ ':') = node := by
    unfold line
    rw [List.takeWhile_append_of_pos (by simpa using fun c hc => (hnode c hc).1),
      List.takeWhile_cons_of_neg (by simp), List.append_nil]
  rw [nodeOfLine_eq, hfront, Text.trim_eq_self fun c hc => (hnode c hc).2]

/-- The path of the node that a line binds to an address. -/
def path? (mac : List Char) : Entry → Option String
  | binding node own details =>
    if (binding node own details).Binds mac then some ("/dev/" ++ String.ofList node) else none
  | other _ => none

theorem path?_eq_none_iff : entry.path? mac = none ↔ ¬entry.Binds mac := by
  cases entry with
  | binding node own details => simp [path?]
  | other line => simp [path?, Binds]

theorem path?_eq_some_iff {path : String} : entry.path? mac = some path
    ↔ ∃ node own details, entry = binding node own details
      ∧ Text.lowerAscii own = Text.lowerAscii mac ∧ path = "/dev/" ++ String.ofList node := by
  cases entry with
  | other line => simp [path?]
  | binding node own details =>
    unfold path?
    rw [Option.ite_none_right_eq_some, Option.some_inj]
    constructor
    · intro h
      exact ⟨node, own, details, rfl, h.1, h.2.symm⟩
    · intro h
      obtain ⟨_, _, _, hsame, hbinds, hpath⟩ := h
      obtain ⟨rfl, rfl, rfl⟩ := Entry.binding.inj hsame
      exact ⟨hbinds, hpath.symm⟩

/-- A line is read as what it was written for. -/
theorem boundNode?_line (h : entry.WellFormed) (hmac : IsAddress mac) :
    boundNode? mac entry.line = entry.path? mac := by
  unfold boundNode?
  by_cases hbinds : entry.Binds mac
  · rw [if_pos ((contains_iff h hmac).mpr hbinds)]
    cases entry with
    | other line => exact absurd hbinds id
    | binding node own details =>
      rw [nodeOfLine_binding h]
      exact (if_pos hbinds).symm
  · rw [if_neg (mt (contains_iff h hmac).mp hbinds), path?_eq_none_iff.mpr hbinds]

end Entry

-- ============================================================= the listing

/-- A listing that was written line by line is searched line by line. -/
theorem binding?_of_isLines {entries : List Entry} (h : ∀ entry ∈ entries, entry.WellFormed)
    (htext : Text.IsLines (entries.map Entry.line) text) (hmac : IsAddress mac) :
    binding? text mac = entries.findSome? (Entry.path? mac) := by
  have hsingle : ∀ line ∈ entries.map Entry.line, '\n' ∉ line := by
    intro line hline
    obtain ⟨entry, hentry, rfl⟩ := List.mem_map.mp hline
    exact (h entry hentry).single
  rw [binding?_eq, (lineReader_boundNode? hmac).read hsingle htext, List.filterMap_map,
    ← List.head?_filterMap]
  apply congrArg List.head?
  exact List.filterMap_congr fun entry hentry => Entry.boundNode?_line (h entry hentry) hmac

/-- Finding the node that is bound to an address.

In a listing that was written line by line, the node that is found is that of
the first line of the device, whatever the letter case of the address on it and
of the address looked for; and none is found exactly if there is no line of the
device. For the search finds the lines of the device and no others: on the line
of a binding there is one place for an address, the field of the address, so none
is found in the name of the node, in what stands behind the address, or across
their borders. -/
theorem binding_of_listing {entries : List Entry} (h : ∀ entry ∈ entries, entry.WellFormed)
    (htext : Text.IsLines (entries.map Entry.line) text) (hmac : IsAddress mac) :
    (∀ path, binding? text mac = some path ↔
        ∃ before node own details after, entries = before ++ .binding node own details :: after
          ∧ Text.lowerAscii own = Text.lowerAscii mac ∧ (∀ entry ∈ before, ¬entry.Binds mac)
          ∧ path = "/dev/" ++ String.ofList node)
      ∧ (binding? text mac = none ↔ ∀ entry ∈ entries, ¬entry.Binds mac)
      ∧ (∀ entry ∈ entries,
          Text.contains (Text.upper mac) (Text.upper entry.line) = true ↔ entry.Binds mac)
      ∧ ∀ node own details, .binding node own details ∈ entries → ∀ start stop,
          Text.upper (Entry.binding node own details).line = start ++ Text.upper mac ++ stop →
            start = Text.upper (node ++ [':', ' ']) := by
  have hread := binding?_of_isLines h htext hmac
  refine ⟨fun path => ?_, ?_, ?_, ?_⟩
  · rw [hread, List.findSome?_eq_some_iff]
    constructor
    · intro hfirst
      obtain ⟨before, entry, after, hentries, hpath, hbefore⟩ := hfirst
      obtain ⟨node, own, details, rfl, hsame, rfl⟩ := Entry.path?_eq_some_iff.mp hpath
      exact ⟨before, node, own, details, after, hentries, hsame,
        fun other hother => Entry.path?_eq_none_iff.mp (hbefore other hother), rfl⟩
    · intro hfirst
      obtain ⟨before, node, own, details, after, hentries, hsame, hbefore, hpath⟩ := hfirst
      exact ⟨before, .binding node own details, after, hentries,
        Entry.path?_eq_some_iff.mpr ⟨node, own, details, rfl, hsame, hpath⟩,
        fun other hother => Entry.path?_eq_none_iff.mpr (hbefore other hother)⟩
  · rw [hread, List.findSome?_eq_none_iff]
    exact forall₂_congr fun entry _ => Entry.path?_eq_none_iff
  · intro entry hentry
    exact Entry.contains_iff (h entry hentry) hmac
  · intro node own details hmem start stop hfound
    exact (Entry.eq_of_found (h _ hmem) hmac hfound).1

/-- A listing whose first line would hold the address of the last one, but for
the blank. -/
def nearMisses : List Entry :=
  [.binding "00".toList "11:62:AA:BB:CC:DD".toList "EE clean".toList,
   .other "no device\r".toList,
   .binding "rfcomm1".toList "00:11:62:aa:bb:cc".toList "channel 1".toList]

def nearMissText : List Char :=
  "00: 11:62:AA:BB:CC:DD EE clean\nno device\r\nrfcomm1: 00:11:62:aa:bb:cc channel 1\n".toList

theorem wellFormed_nearMisses : ∀ entry ∈ nearMisses, entry.WellFormed := by
  have hother : ∀ mac, IsAddress mac → ¬mac <:+: "no device\r".toList := by
    intro mac hmac hoccurs
    have hcolon : ':' ∈ mac := List.count_pos_iff.mp (hmac.count_colon ▸ Nat.succ_pos 4)
    exact absurd (hoccurs.subset hcolon) (by decide)
  intro entry hentry
  simp only [nearMisses, List.mem_cons, List.not_mem_nil, or_false] at hentry
  rcases hentry with rfl | rfl | rfl
  · exact ⟨forall_sign (by decide), by decide,
      ⟨by decide, forall_sign (P := fun c => c ≠ ':' ∧ Text.isBlank c = false) (by decide)⟩,
      by decide, by decide⟩
  · exact ⟨forall_sign (by decide), by decide, hother⟩
  · exact ⟨forall_sign (by decide), by decide,
      ⟨by decide, forall_sign (P := fun c => c ≠ ':' ∧ Text.isBlank c = false) (by decide)⟩,
      by decide, by decide⟩

/-- The node of the last line is found in it. -/
theorem node_among_near_misses :
    (∀ entry ∈ nearMisses, entry.WellFormed)
      ∧ Text.IsLines (nearMisses.map Entry.line) nearMissText
      ∧ IsAddress "00:11:62:AA:BB:CC".toList
      ∧ binding? nearMissText "00:11:62:AA:BB:CC".toList = some "/dev/rfcomm1" := by
  have htext : Text.IsLines (nearMisses.map Entry.line) nearMissText := .inr (by decide)
  have hmac : IsAddress "00:11:62:AA:BB:CC".toList := by decide
  have hfound := (binding_of_listing wellFormed_nearMisses htext hmac).1 "/dev/rfcomm1"
  refine ⟨wellFormed_nearMisses, htext, hmac, hfound.mpr ?_⟩
  exact ⟨nearMisses.dropLast, "rfcomm1".toList, "00:11:62:aa:bb:cc".toList, "channel 1".toList, [],
    rfl, by decide, by decide, by decide⟩

end ReceiptPrinter.Bluetooth
