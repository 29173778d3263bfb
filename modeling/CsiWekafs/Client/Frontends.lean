import CsiWekafs.Lib.GoText
import CsiWekafs.Lib.Trim
import CsiWekafs.MountOptions
import CsiWekafs.Numerals

namespace CsiWekafs

def maxScanTokenSize : Nat := 64 * 1024

/-- The lines that a scanner delivers, up to the first one that does not fit its buffer. -/
def scanLines (content : Str) : List Str × Option Err :=
  let raw := GoText.lines content
  let read := raw.takeWhile fun l => byteLen l < maxScanTokenSize
  (read.map GoText.dropCR,
    if read.length < raw.length then some (.plain "bufio.Scanner: token too long") else none)

structure ProcFsContainer where
  containerName : Str
  containerId : Int64
  pid : Int64 := 0
  connected : Bool
  deriving DecidableEq

def parsePid (line : Str) : Option Int64 :=
  let pidParts := GoText.split "pid " line
  if pidParts.length < 2 then none else atoi (trimSpace (pidParts.getD 1 []))

/-- The frontend of a line. None where the line is skipped. -/
def parseFrontend (line : Str) : Option ProcFsContainer :=
  if line = [] then none
  else if !contains line "Container=" then none
  else
    let name := (((line.splitOn '=').getD 1 []).splitOn ' ').headD []
    let fields := line.splitOn ' '
    if fields.length < 3 then none
    else
      match atoi (((fields.getD 2 []).splitOn ':').headD []) with
      | none => none
      | some idInt =>
        if contains line "Frontend is not connected" then
          some { containerName := name, containerId := idInt, connected := false }
        else if !contains line "Connected frontend pid" then none
        else
          (parsePid line).map fun pidInt =>
            { containerName := name, pid := pidInt, containerId := idInt, connected := true }

/-- The file is given by its content, or by the error of opening it. -/
def getFrontendsFromDriver (file : Except Err Str) : Except Err (List ProcFsContainer) :=
  match file with
  | .error e => .error e
  | .ok content =>
    match (scanLines content).2 with
    | some e => .error e
    | none => .ok ((scanLines content).1.filterMap parseFrontend)

def wekaKernelModuleName : Str := "wekafsgw"

def isWekaDriverLoaded (modules : Except Err Str) : Bool :=
  match modules with
  | .error _ => false
  | .ok content => (scanLines content).1.any fun line => (line.splitOn ' ').headD [] = wekaKernelModuleName

def isWekaRunning (modules file : Except Err Str) : Bool :=
  if !isWekaDriverLoaded modules then false
  else
    match getFrontendsFromDriver file with
    | .error _ => false
    | .ok frontends =>
      if frontends.length = 0 then false
      else (frontends.filter fun f => !f.connected).length = 0

/-- A decimal number of 64 bits as it is written. -/
structure Decimal where
  negative : Bool
  digits : Str
  ne_nil : digits ≠ []
  isDigit : ∀ c ∈ digits, c.isDigit
  inRange : Nat.ofDigitChars 10 digits 0 < 2 ^ 63 ∨ negative ∧ Nat.ofDigitChars 10 digits 0 = 2 ^ 63

namespace Decimal

def text (d : Decimal) : Str := if d.negative then '-' :: d.digits else d.digits

def value (d : Decimal) : Int64 :=
  Int64.ofInt (if d.negative then -(Nat.ofDigitChars 10 d.digits 0 : ℤ) else Nat.ofDigitChars 10 d.digits 0)

theorem atoi_text (d : Decimal) : atoi d.text = some d.value := by
  have hrange := d.inRange
  rw [atoi, text, value]
  by_cases hneg : d.negative = true
  · rw [if_pos hneg, if_pos hneg, parseInt_neg_digits d.ne_nil d.isDigit (by omega), Option.map_some]
  · have hlt := hrange.resolve_right fun h => hneg h.1
    rw [if_neg hneg, if_neg hneg, parseInt_digits d.ne_nil d.isDigit hlt, Option.map_some]

theorem char_of_text {d : Decimal} {c : Char} (h : c ∈ d.text) : c.isDigit = true ∨ c = '-' := by
  unfold text at h
  split at h
  next =>
    rcases List.mem_cons.mp h with rfl | h
    · exact Or.inr rfl
    · exact Or.inl (d.isDigit c h)
  next => exact Or.inl (d.isDigit c h)

end Decimal

/-- The name of a container. -/
structure ContainerName where
  text : Str
  ne_nil : text ≠ []
  plain : ∀ c ∈ text, isSpace c = false ∧ c ≠ '='

/-- A line of the driver's interface. -/
inductive DriverLine
  | connected (name : ContainerName) (id pid : Decimal)
  | disconnected (name : ContainerName) (id : Decimal)
  | other (text : Str) (h : contains text "Container=" = false)

namespace DriverLine

/-- What comes before the state of a frontend. -/
def head (name : ContainerName) (id : Decimal) : Str := "Container=" ++ name.text ++ " FE " ++ id.text ++ ": "

def text : DriverLine → Str
  | .connected name id pid => head name id ++ "Connected frontend pid " ++ pid.text
  | .disconnected name id => head name id ++ "Frontend is not connected"
  | .other text _ => text

def frontend : DriverLine → Option ProcFsContainer
  | .connected name id pid =>
    some { containerName := name.text, containerId := id.value, pid := pid.value, connected := true }
  | .disconnected name id =>
    some { containerName := name.text, containerId := id.value, connected := false }
  | .other _ _ => none

end DriverLine

theorem contains_iff {s sub : Str} : contains s sub = true ↔ sub <:+: s := by
  rw [contains, List.any_eq_true, List.infix_iff_prefix_suffix]
  constructor
  · rintro ⟨t, ht, hpre⟩
    exact ⟨t, List.isPrefixOf_iff_prefix.mp hpre, (List.mem_tails t s).mp ht⟩
  · rintro ⟨t, hpre, hsuf⟩
    exact ⟨t, (List.mem_tails t s).mpr hsuf, List.isPrefixOf_iff_prefix.mpr hpre⟩

theorem parseFrontend_of_not_container {line : Str} (h : contains line "Container=" = false) :
    parseFrontend line = none := by
  unfold parseFrontend
  rw [h]
  split <;> rfl

theorem notMem_decimal {d : Decimal} {c : Char} (hc : c.isDigit = false) (hm : c ≠ '-') : c ∉ d.text := by
  intro h
  rcases Decimal.char_of_text h with hd | rfl
  · rw [hc] at hd
    cases hd
  · exact hm rfl

section
variable (name : ContainerName) (id : Decimal) (st : Str)

theorem blank_notMem_name : ' ' ∉ name.text := fun h => absurd (name.plain _ h).1 (by decide)

/-- The pieces of a line between its blanks. -/
theorem head_append : DriverLine.head name id ++ st =
    (("Container=" : Str) ++ name.text) ++ ' ' :: (("FE" : Str) ++ ' ' :: ((id.text ++ (":" : Str)) ++ ' ' :: st)) := by
  unfold DriverLine.head
  simp

theorem blank_notMem_container : ' ' ∉ ("Container=" : Str) ++ name.text := by
  intro h
  rcases List.mem_append.mp h with h | h
  · exact absurd h (by decide)
  · exact blank_notMem_name name h

theorem blank_notMem_id : ' ' ∉ id.text ++ (":" : Str) := by
  intro h
  rcases List.mem_append.mp h with h | h
  · exact notMem_decimal rfl (by decide) h
  · exact absurd h (by decide)

theorem splitOn_head : (DriverLine.head name id ++ st).splitOn ' ' =
    ["Container=" ++ name.text, "FE", id.text ++ ":"] ++ st.splitOn ' ' := by
  have hname := blank_notMem_container name
  have hid := blank_notMem_id id
  rw [head_append, List.splitOn_append_cons_self, List.splitOn_append_cons_self,
    List.splitOn_append_cons_self, List.splitOn_eq_singleton hname, List.splitOn_eq_singleton hid]
  rfl

variable {st} (hst : '=' ∉ st)
include hst

theorem name_of_head :
    ((((DriverLine.head name id ++ st).splitOn '=').getD 1 []).splitOn ' ').headD [] = name.text := by
  have hrest : '=' ∉ name.text ++ ' ' :: (("FE" : Str) ++ ' ' :: ((id.text ++ (":" : Str)) ++ ' ' :: st)) := by
    intro h
    simp only [List.mem_append, List.mem_cons] at h
    obtain h | h | h | h | (h | h) | h | h := h
    · exact (name.plain _ h).2 rfl
    · exact absurd h (by decide)
    · exact absurd h (by decide)
    · exact absurd h (by decide)
    · exact notMem_decimal rfl (by decide) h
    · exact absurd h (by decide)
    · exact absurd h (by decide)
    · exact hst h
  have hsplit : (DriverLine.head name id ++ st).splitOn '=' = [("Container" : Str),
      name.text ++ ' ' :: (("FE" : Str) ++ ' ' :: ((id.text ++ (":" : Str)) ++ ' ' :: st))] := by
    have hcontainer : ("Container=" : Str) = ("Container" : Str) ++ ['='] := rfl
    rw [head_append, hcontainer, List.append_assoc, List.append_assoc, List.singleton_append,
      List.splitOn_append_cons_self, List.splitOn_eq_singleton hrest]
    rfl
  rw [hsplit, List.getD_cons_succ, List.getD_cons_zero, List.splitOn_append_cons_self,
    List.splitOn_eq_singleton (blank_notMem_name name)]
  rfl

/-- A line of a frontend is read up to its state. -/
theorem parseFrontend_head :
    parseFrontend (DriverLine.head name id ++ st) =
      if contains (DriverLine.head name id ++ st) "Frontend is not connected" = true then
        some { containerName := name.text, containerId := id.value, connected := false }
      else if contains (DriverLine.head name id ++ st) "Connected frontend pid" = true then
        (parsePid (DriverLine.head name id ++ st)).map fun pid =>
          { containerName := name.text, pid := pid, containerId := id.value, connected := true }
      else none := by
  have hne : DriverLine.head name id ++ st ≠ [] := by
    rw [head_append]
    exact List.cons_ne_nil _ _
  have hcontainer : contains (DriverLine.head name id ++ st) "Container=" = true :=
    contains_iff.mpr ⟨[], name.text ++ ' ' :: (("FE" : Str) ++ ' ' :: ((id.text ++ (":" : Str)) ++ ' ' :: st)), by
      rw [head_append, List.nil_append, List.append_assoc ("Container=" : Str)]⟩
  have hfields := splitOn_head name id st
  have hid : ((((DriverLine.head name id ++ st).splitOn ' ').getD 2 []).splitOn ':').headD [] = id.text := by
    have hcolon : ':' ∉ id.text := notMem_decimal rfl (by decide)
    rw [hfields]
    change ((id.text ++ ':' :: []).splitOn ':').headD [] = id.text
    rw [List.splitOn_append_cons_self, List.splitOn_eq_singleton hcolon]
    rfl
  have hlen : ¬ ((DriverLine.head name id ++ st).splitOn ' ').length < 3 := by
    rw [hfields, List.length_append]
    simp
  unfold parseFrontend
  simp only [if_neg hne, hcontainer, Bool.not_true, Bool.false_eq_true, if_false, if_neg hlen, hid,
    Decimal.atoi_text, name_of_head name id hst]
  cases contains (DriverLine.head name id ++ st) "Connected frontend pid" <;> rfl

end

theorem digitsValue_letter (s : Str) : digitsValue 10 false ('F' :: s) = none := by
  unfold digitsValue
  rw [List.foldl_cons]
  induction s with
  | nil => rfl
  | cons c s ih => exact ih

theorem atoi_letter (s : Str) : atoi ('F' :: s) = none := by
  have hval := digitsValue_letter s
  have hplus : ∀ t, 'F' :: s ≠ '+' :: t := fun t h => absurd (List.cons.inj h).1 (by decide)
  have hminus : ∀ t, 'F' :: s ≠ '-' :: t := fun t h => absurd (List.cons.inj h).1 (by decide)
  have hparse : parseInt ('F' :: s) 10 64 = none := by
    generalize 'F' :: s = text at hval hplus hminus
    unfold parseInt
    split
    next neg digits hs =>
      split at hs
      · exact (hplus _ rfl).elim
      · exact (hminus _ rfl).elim
      · cases hs
        simp only [hval, if_false, Nat.reduceEqDiff, decide_false]
        exact ite_self _
  rw [atoi, hparse, Option.map_none]

theorem trimmed_decimal (d : Decimal) : Trim.Trimmed isSpace d.text := by
  have hplain : ∀ c ∈ d.text, isSpace c = false := by
    intro c hc
    rcases Decimal.char_of_text hc with hdigit | rfl
    · have hnat : 48 ≤ c.toNat ∧ c.toNat ≤ 57 := Char.isDigit_iff_toNat.mp hdigit
      simp [isSpace]
      omega
    · decide
  exact ⟨fun c hc => hplain c (List.mem_of_mem_head? hc), fun c hc => hplain c (List.mem_of_getLast? hc)⟩

theorem pid_suffix_iff (name : ContainerName) :
    ("pid" : Str) <:+ ("Container=" : Str) ++ name.text ↔ ("pid" : Str) <:+ name.text := by
  constructor
  · intro h
    rcases List.suffix_or_suffix_of_suffix h (List.suffix_append _ name.text) with h' | h'
    · exact h'
    · have hne := name.ne_nil
      have hmem := (List.mem_tails name.text ("pid" : Str)).mpr h'
      generalize name.text = t at *
      have htails : ("pid" : Str).tails = [("pid" : Str), ("id" : Str), ("d" : Str), []] := rfl
      rw [htails] at hmem
      simp only [List.mem_cons, List.not_mem_nil, or_false] at hmem
      obtain rfl | rfl | rfl | rfl := hmem
      · exact List.suffix_refl _
      · exact absurd h (by decide)
      · exact absurd h (by decide)
      · exact absurd rfl hne
  · exact fun h => h.trans (List.suffix_append _ _)

section
variable (name : ContainerName) (id pid : Decimal)

/-- What follows the name in the line of a connected frontend, up to the word before its number. -/
def connectedTail : Str := ("FE" : Str) ++ ' ' :: ((id.text ++ (":" : Str)) ++ ' ' ::
  (("Connected" : Str) ++ ' ' :: (("frontend" : Str) ++ ' ' :: [])))

theorem cut_connectedTail :
    GoText.cut (("pid" : Str) ++ [' ']) (connectedTail id ++ (("pid" : Str) ++ ' ' :: pid.text)) =
      some (connectedTail id, pid.text) := by
  have hid := blank_notMem_id id
  have hcolon : ¬ ("pid" : Str) <:+ id.text ++ (":" : Str) := by
    rintro ⟨u, hu⟩
    have hlast := congrArg List.getLast? hu
    simp at hlast
  have htail : connectedTail id ++ (("pid" : Str) ++ ' ' :: pid.text) =
      ("FE" : Str) ++ ' ' :: ((id.text ++ (":" : Str)) ++ ' ' :: (("Connected" : Str) ++ ' ' ::
        (("frontend" : Str) ++ ' ' :: (("pid" : Str) ++ ' ' :: pid.text)))) := by
    unfold connectedTail
    simp
  have hblank : ' ' ∉ ("pid" : Str) := by decide
  rw [htail, GoText.cut_word hblank (by decide), if_neg (by decide), GoText.cut_word hblank hid, if_neg hcolon,
    GoText.cut_word hblank (by decide), if_neg (by decide), GoText.cut_word hblank (by decide), if_neg (by decide),
    GoText.cut_word hblank (by decide), if_pos (List.suffix_refl _)]
  rfl

theorem text_connected : (DriverLine.connected name id pid).text =
    (("Container=" : Str) ++ name.text) ++ ' ' :: (connectedTail id ++ (("pid" : Str) ++ ' ' :: pid.text)) := by
  unfold DriverLine.text DriverLine.head connectedTail
  simp

theorem text_connected_head : (DriverLine.connected name id pid).text =
    DriverLine.head name id ++ (("Connected frontend pid " : Str) ++ pid.text) :=
  List.append_assoc _ _ _

theorem parsePid_connected (h : ¬ ("pid" : Str) <:+ name.text) :
    parsePid (DriverLine.connected name id pid).text = some pid.value := by
  have hblank : ' ' ∉ ("pid" : Str) := by decide
  have hsep : ("pid " : Str) = ("pid" : Str) ++ [' '] := by decide
  have hpid : ' ' ∉ pid.text := notMem_decimal rfl (by decide)
  have hcut := GoText.cut_word hblank (blank_notMem_container name)
    (connectedTail id ++ (("pid" : Str) ++ ' ' :: pid.text))
  rw [if_neg fun hs => h ((pid_suffix_iff name).mp hs), cut_connectedTail, Option.map_some,
    ← text_connected] at hcut
  have hsplit := GoText.split_of_cut (b := ' ') (by simp) (by rw [text_connected]; simp) hcut hpid
  have htrim : trimSpace pid.text = pid.text := (trimmed_decimal pid).trim_eq
  rw [parsePid, hsep, hsplit]
  exact (congrArg atoi htrim).trans pid.atoi_text

/-- The text between the name and the number is no number. -/
theorem trimSpace_connectedTail : ∃ t, trimSpace (connectedTail id) = 'F' :: t := by
  have hword : Trim.Trimmed isSpace (("FE" : Str) ++ ' ' :: ((id.text ++ (":" : Str)) ++ ' ' ::
      (("Connected" : Str) ++ ' ' :: ("frontend" : Str)))) := by
    refine ⟨?_, ?_⟩
    · rintro c ⟨⟩
      decide
    · have hlast : ("FE" : Str) ++ ' ' :: ((id.text ++ (":" : Str)) ++ ' ' ::
          (("Connected" : Str) ++ ' ' :: ("frontend" : Str))) =
          (("FE" : Str) ++ ' ' :: (id.text ++ (": Connected fronten" : Str))) ++ ['d'] := by simp
      rw [hlast, List.getLast?_concat]
      rintro c ⟨⟩
      decide
  have hdrop := hword.trim_around (l := []) (r := [' ']) (by simp) (forall_mem_of_all (by decide))
  have htail : connectedTail id = [] ++ (("FE" : Str) ++ ' ' :: ((id.text ++ (":" : Str)) ++ ' ' ::
      (("Connected" : Str) ++ ' ' :: ("frontend" : Str))) ++ [' ']) := by
    unfold connectedTail
    simp
  rw [htail]
  exact ⟨_, hdrop⟩

theorem parsePid_misread (h : ("pid" : Str) <:+ name.text) :
    parsePid (DriverLine.connected name id pid).text = none := by
  have hblank : ' ' ∉ ("pid" : Str) := by decide
  have hsep : ("pid " : Str) = ("pid" : Str) ++ [' '] := by decide
  have hcut := GoText.cut_word hblank (blank_notMem_container name)
    (connectedTail id ++ (("pid" : Str) ++ ' ' :: pid.text))
  rw [if_pos ((pid_suffix_iff name).mpr h), ← text_connected] at hcut
  have hlen : 1 < (DriverLine.connected name id pid).text.length := by
    rw [text_connected]
    simp
  obtain ⟨pieces, hsplit⟩ := GoText.split_of_cut_cut hlen hcut (cut_connectedTail id pid)
  obtain ⟨t, ht⟩ := trimSpace_connectedTail id
  rw [parsePid, hsep, hsplit]
  exact (congrArg atoi ht).trans (atoi_letter t)

theorem splitOn_connected : (DriverLine.connected name id pid).text.splitOn ' ' =
    [("Container=" : Str) ++ name.text, ("FE" : Str), id.text ++ (":" : Str), ("Connected" : Str),
      ("frontend" : Str), ("pid" : Str), pid.text] := by
  have hpid : ' ' ∉ pid.text := notMem_decimal rfl (by decide)
  have hstate : ("Connected frontend pid " : Str) ++ pid.text =
      ("Connected" : Str) ++ ' ' :: (("frontend" : Str) ++ ' ' :: (("pid" : Str) ++ ' ' :: pid.text)) := by simp
  rw [text_connected_head, splitOn_head, hstate, List.splitOn_append_cons_self, List.splitOn_append_cons_self,
    List.splitOn_append_cons_self, List.splitOn_eq_singleton hpid]
  rfl

theorem connected_not_disconnected :
    contains (DriverLine.connected name id pid).text "Frontend is not connected" = false := by
  refine Bool.eq_false_iff.mpr fun h => ?_
  obtain ⟨a, b, hline⟩ := contains_iff.mp h
  have hword : ("is" : Str) ∈ (DriverLine.connected name id pid).text.splitOn ' ' := by
    have hpieces : a ++ ("Frontend is not connected" : Str) ++ b =
        (a ++ ("Frontend" : Str)) ++ ' ' :: (("is" : Str) ++ ' ' :: (("not connected" : Str) ++ b)) := by simp
    rw [← hline, hpieces, List.splitOn_append_cons_self, List.splitOn_append_cons_self]
    exact List.mem_append_right _ (List.mem_append_left _ (by decide))
  have hletter : ∀ d : Decimal, 's' ∉ d.text := fun d => notMem_decimal rfl (by decide)
  rw [splitOn_connected] at hword
  simp only [List.mem_cons, List.not_mem_nil, or_false] at hword
  obtain hw | hw | hw | hw | hw | hw | hw := hword
  · simp at hw
  · exact absurd hw (by decide)
  · have hs : 's' ∈ id.text ++ (":" : Str) := hw ▸ (by decide : 's' ∈ ("is" : Str))
    exact (List.mem_append.mp hs).elim (hletter id) (by decide)
  · exact absurd hw (by decide)
  · exact absurd hw (by decide)
  · exact absurd hw (by decide)
  · exact hletter pid (hw ▸ (by decide : 's' ∈ ("is" : Str)))

theorem eq_notMem_connected : '=' ∉ ("Connected frontend pid " : Str) ++ pid.text := by
  intro h
  rcases List.mem_append.mp h with h | h
  · exact absurd h (by decide)
  · exact notMem_decimal rfl (by decide) h

end

/-- The line of a connected frontend is misread where the name ends like the word before the number. -/
def DriverLine.Misread : DriverLine → Prop
  | .connected name _ _ => ("pid" : Str) <:+ name.text
  | .disconnected _ _ => False
  | .other _ _ => False

theorem parseFrontend_text (l : DriverLine) :
    (¬ l.Misread → parseFrontend l.text = l.frontend) ∧ (l.Misread → parseFrontend l.text = none) := by
  cases l with
  | connected name id pid =>
    have htext := text_connected_head name id pid
    have hparse := parseFrontend_head name id (eq_notMem_connected pid)
    have hmark : contains (DriverLine.connected name id pid).text "Connected frontend pid" = true := by
      refine contains_iff.mpr ⟨DriverLine.head name id, ' ' :: pid.text, ?_⟩
      rw [htext]
      simp
    rw [← htext, connected_not_disconnected, hmark] at hparse
    constructor
    · intro h
      rw [hparse, parsePid_connected name id pid h]
      rfl
    · intro h
      rw [hparse, parsePid_misread name id pid h]
      rfl
  | disconnected name id =>
    refine ⟨fun _ => ?_, fun h => h.elim⟩
    have hparse := parseFrontend_head name id (by decide : '=' ∉ ("Frontend is not connected" : Str))
    have hmark : contains (DriverLine.head name id ++ ("Frontend is not connected" : Str))
        "Frontend is not connected" = true := contains_iff.mpr ⟨DriverLine.head name id, [], by simp⟩
    rw [if_pos hmark] at hparse
    exact hparse
  | other text h =>
    exact ⟨fun _ => parseFrontend_of_not_container h, fun h => h.elim⟩

/-- The lines of a file are of these kinds, and each fits the scanner. A carriage return may end a line. -/
structure IsDriverFile (content : Str) (lines : List DriverLine) : Prop where
  lines : List.Forall₂ (fun raw l => raw = l.text ∨ raw = l.text ++ ['\r']) (GoText.lines content) lines
  short : ∀ raw ∈ GoText.lines content, byteLen raw < maxScanTokenSize

theorem dropCR_eq_self {l : Str} (h : l.getLast? ≠ some '\r') : GoText.dropCR l = l := if_neg h

theorem parseFrontend_dropCR_text (l : DriverLine) :
    parseFrontend (GoText.dropCR l.text) = parseFrontend l.text := by
  cases l with
  | connected name id pid =>
    rw [dropCR_eq_self]
    intro h
    have hne : pid.text ≠ [] := by
      unfold Decimal.text
      split
      next => simp
      next => exact pid.ne_nil
    have htext : (DriverLine.connected name id pid).text =
        (DriverLine.head name id ++ ("Connected frontend pid " : Str)) ++ pid.text := rfl
    rw [htext, List.getLast?_append_of_ne_nil _ hne] at h
    exact notMem_decimal rfl (by decide) (List.mem_of_getLast? h)
  | disconnected name id =>
    rw [dropCR_eq_self]
    have htext : (DriverLine.disconnected name id).text =
        (DriverLine.head name id ++ ("Frontend is not connecte" : Str)) ++ ['d'] := by
      unfold DriverLine.text
      simp
    rw [htext, List.getLast?_concat]
    decide
  | other text h =>
    have hpre : GoText.dropCR text <+: text := by
      unfold GoText.dropCR
      split
      next => exact List.dropLast_prefix text
      next => exact List.prefix_refl text
    have hcontains : contains (GoText.dropCR text) "Container=" = false := by
      refine Bool.eq_false_iff.mpr fun hc => ?_
      have hmark := contains_iff.mpr ((contains_iff.mp hc).trans hpre.isInfix)
      rw [h] at hmark
      cases hmark
    exact (parseFrontend_of_not_container hcontains).trans (parseFrontend_of_not_container h).symm

theorem parseFrontend_dropCR {raw : Str} {l : DriverLine} (h : raw = l.text ∨ raw = l.text ++ ['\r']) :
    parseFrontend (GoText.dropCR raw) = parseFrontend l.text := by
  rcases h with rfl | rfl
  · exact parseFrontend_dropCR_text l
  · rw [GoText.dropCR, List.getLast?_concat, if_pos rfl, List.dropLast_concat]

theorem scanLines_of_short {content : Str} (h : ∀ raw ∈ GoText.lines content, byteLen raw < maxScanTokenSize) :
    scanLines content = ((GoText.lines content).map GoText.dropCR, none) := by
  have hall : (GoText.lines content).takeWhile (fun l => byteLen l < maxScanTokenSize) = GoText.lines content :=
    List.takeWhile_eq_self_iff.mpr fun raw hraw => decide_eq_true (h raw hraw)
  rw [scanLines, hall, if_neg (Nat.lt_irrefl _)]

theorem getFrontendsFromDriver_eq {content : Str} {lines : List DriverLine} (h : IsDriverFile content lines) :
    getFrontendsFromDriver (.ok content) = .ok (lines.filterMap fun l => parseFrontend l.text) := by
  have hmap : ((GoText.lines content).map GoText.dropCR).filterMap parseFrontend =
      lines.filterMap fun l => parseFrontend l.text := by
    obtain ⟨hlines, -⟩ := h
    generalize GoText.lines content = raws at hlines
    induction hlines with
    | nil => rfl
    | cons hraw _ ih =>
      rw [List.map_cons, List.filterMap_cons, List.filterMap_cons, parseFrontend_dropCR hraw, ih]
  rw [getFrontendsFromDriver, scanLines_of_short h.short]
  exact congrArg Except.ok hmap

/-- Where every value is kept or lost, the results are the same only if all are kept. -/
theorem filterMap_eq_iff {α β : Type} {f g : α → Option β} {l : List α}
    (h : ∀ x ∈ l, g x = none ∨ g x = f x) : l.filterMap g = l.filterMap f ↔ ∀ x ∈ l, g x = f x := by
  have hle : ∀ l : List α, (∀ x ∈ l, g x = none ∨ g x = f x) →
      (l.filterMap g).length ≤ (l.filterMap f).length := by
    intro l hl
    induction l with
    | nil => simp
    | cons x l ih =>
      rw [List.forall_mem_cons] at hl
      have hrest := ih hl.2
      rcases hl.1 with hx | hx
      · cases hf : f x <;> simp [hx, hf] <;> omega
      · cases hf : f x <;> simp [hx, hf] <;> omega
  constructor
  · intro heq
    induction l with
    | nil => simp
    | cons x l ih =>
      rw [List.forall_mem_cons] at h ⊢
      have hlen := hle l h.2
      cases hf : f x with
      | none =>
        have hg : g x = none := h.1.elim id fun hg => hg.trans hf
        rw [List.filterMap_cons_none hg, List.filterMap_cons_none hf] at heq
        exact ⟨hg, ih h.2 heq⟩
      | some b =>
        rcases h.1 with hg | hg
        · rw [List.filterMap_cons_none hg, List.filterMap_cons_some hf] at heq
          have := congrArg List.length heq
          rw [List.length_cons] at this
          omega
        · rw [List.filterMap_cons_some (hg.trans hf), List.filterMap_cons_some hf] at heq
          exact ⟨hg.trans hf, ih h.2 (List.cons.inj heq).2⟩
  · exact fun hall => List.filterMap_congr hall

theorem isWekaRunning_iff {modules file : Except Err Str} {frontends : List ProcFsContainer}
    (h : getFrontendsFromDriver file = .ok frontends) :
    isWekaRunning modules file = true ↔
      isWekaDriverLoaded modules = true ∧ frontends ≠ [] ∧ ∀ f ∈ frontends, f.connected = true := by
  rw [isWekaRunning, h]
  cases isWekaDriverLoaded modules <;> simp

/-- The frontends of a file are found, and the client counts as running by their states, exactly where
no name of a connected frontend ends like the word before its number. -/
theorem getFrontendsFromDriver_iff {content : Str} {lines : List DriverLine}
    (h : IsDriverFile content lines) (modules : Except Err Str) :
    (getFrontendsFromDriver (.ok content) = .ok (lines.filterMap DriverLine.frontend) ∧
      (isWekaRunning modules (.ok content) = true ↔ isWekaDriverLoaded modules = true ∧
        (∃ l ∈ lines, l.frontend ≠ none) ∧ ∀ l ∈ lines, ∀ f ∈ l.frontend, f.connected = true)) ↔
      ∀ name id pid, DriverLine.connected name id pid ∈ lines → ¬ ("pid" : Str) <:+ name.text := by
  have hkept : ∀ l ∈ lines, parseFrontend l.text = none ∨ parseFrontend l.text = l.frontend := by
    intro l _
    by_cases hl : l.Misread
    · exact Or.inl ((parseFrontend_text l).2 hl)
    · exact Or.inr ((parseFrontend_text l).1 hl)
  have hsame : getFrontendsFromDriver (.ok content) = .ok (lines.filterMap DriverLine.frontend) ↔
      ∀ l ∈ lines, parseFrontend l.text = l.frontend := by
    rw [getFrontendsFromDriver_eq h, Except.ok.injEq, filterMap_eq_iff hkept]
  have hrunning : getFrontendsFromDriver (.ok content) = .ok (lines.filterMap DriverLine.frontend) →
      (isWekaRunning modules (.ok content) = true ↔ isWekaDriverLoaded modules = true ∧
        (∃ l ∈ lines, l.frontend ≠ none) ∧ ∀ l ∈ lines, ∀ f ∈ l.frontend, f.connected = true) := by
    intro hfound
    have hne : lines.filterMap DriverLine.frontend ≠ [] ↔ ∃ l ∈ lines, l.frontend ≠ none := by
      rw [Ne, List.filterMap_eq_nil_iff]
      simp
    have hall : (∀ f ∈ lines.filterMap DriverLine.frontend, f.connected = true) ↔
        ∀ l ∈ lines, ∀ f ∈ l.frontend, f.connected = true := by
      simp only [List.mem_filterMap]
      exact ⟨fun h l hl f hf => h f ⟨l, hl, hf⟩, fun h f hf => hf.elim fun l hl => h l hl.1 f hl.2⟩
    rw [isWekaRunning_iff hfound, hne, hall]
  rw [and_iff_left_of_imp hrunning, hsame]
  constructor
  · intro hall name id pid hmem hsuf
    have hnone := (parseFrontend_text (.connected name id pid)).2 hsuf
    rw [hall _ hmem] at hnone
    cases hnone
  · intro hall l hl
    refine (parseFrontend_text l).1 ?_
    cases l with
    | connected name id pid => exact hall name id pid hl
    | disconnected name id => exact not_false
    | other text h => exact not_false

/-- The line of a connected frontend with plain numbers. -/
def connectedLine (name id pid : Str) (hn : name ≠ [] ∧ ∀ c ∈ name, isSpace c = false ∧ c ≠ '=')
    (hi : id ≠ [] ∧ (∀ c ∈ id, c.isDigit) ∧ Nat.ofDigitChars 10 id 0 < 2 ^ 63)
    (hp : pid ≠ [] ∧ (∀ c ∈ pid, c.isDigit) ∧ Nat.ofDigitChars 10 pid 0 < 2 ^ 63) : DriverLine :=
  .connected ⟨name, hn.1, hn.2⟩ ⟨false, id, hi.1, hi.2.1, Or.inl hi.2.2⟩
    ⟨false, pid, hp.1, hp.2.1, Or.inl hp.2.2⟩

def clientLine : DriverLine :=
  connectedLine "client" "0" "17" ⟨by decide, forall_mem_of_all (by decide)⟩
    ⟨by decide, forall_mem_of_all (by decide), by decide⟩
    ⟨by decide, forall_mem_of_all (by decide), by decide⟩

theorem isDriverFile_client :
    IsDriverFile "Container=client FE 0: Connected frontend pid 17\nError counters\r\n"
      [clientLine, .other "Error counters" (by decide)] := by
  have hlines : GoText.lines "Container=client FE 0: Connected frontend pid 17\nError counters\r\n".toList =
      [clientLine.text, ("Error counters" : Str) ++ ['\r']] := by decide
  refine ⟨?_, by decide⟩
  rw [hlines]
  exact .cons (Or.inl rfl) (.cons (Or.inr rfl) .nil)

theorem getFrontendsFromDriver_iff_client :
    getFrontendsFromDriver (.ok "Container=client FE 0: Connected frontend pid 17\nError counters\r\n") =
      .ok [⟨"client", 0, 17, true⟩] :=
  ((getFrontendsFromDriver_iff isDriverFile_client (.ok [])).mpr (by
    intro name id pid hmem
    simp only [List.mem_cons, reduceCtorEq, List.not_mem_nil, or_false] at hmem
    obtain ⟨rfl, -, -⟩ := DriverLine.connected.inj hmem
    decide)).1

def pidLine : DriverLine :=
  connectedLine "xpid" "1" "4" ⟨by decide, forall_mem_of_all (by decide)⟩
    ⟨by decide, forall_mem_of_all (by decide), by decide⟩
    ⟨by decide, forall_mem_of_all (by decide), by decide⟩

theorem getFrontendsFromDriver_drops_frontend :
    IsDriverFile "Container=xpid FE 1: Connected frontend pid 4\n" [pidLine] ∧
      pidLine.frontend = some ⟨"xpid", 1, 4, true⟩ ∧
      getFrontendsFromDriver (.ok "Container=xpid FE 1: Connected frontend pid 4\n") = .ok [] := by
  have hlines : GoText.lines "Container=xpid FE 1: Connected frontend pid 4\n".toList = [pidLine.text] := by decide
  refine ⟨⟨?_, by decide⟩, by decide, by decide⟩
  rw [hlines]
  exact .cons (Or.inl rfl) .nil

end CsiWekafs
