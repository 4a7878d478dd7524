import Mathlib.Data.List.TakeWhile
import MessagingConsole.Proofs.CommandLine.Values
import MessagingConsole.Proofs.Text.Numerals

/-!
# Endpoints as arguments and as texts

An argument is cut at its last colon.  What is behind it, or all of it if there is none, has to be
a port, and what is in front of it is the host, which must not be empty: that is looked at first.
The text of an endpoint is such an argument behind the scheme, and endpoints with different hosts
or ports have different texts.

## Main Definitions

- `LastColon` - an argument is a host, its last colon, and what is behind that.

## Main Results

- `Endpoint.ofArgument_eq_ok_iff` - which arguments are read as which endpoints.
- `Endpoint.ofArgument_eq_missingHost_iff`, `Endpoint.ofArgument_eq_invalidPort_iff` - what is
  wrong with the others.
- `Endpoint.text_injective` - an endpoint is determined by its text.
- `Endpoint.arguments_and_texts` - all of this, with texts as arguments.
-/

namespace MessagingConsole

/-- An argument is a host, a colon, and a part without colons. -/
structure LastColon (argument host port : String) : Prop where
  cut : argument = host ++ ":" ++ port
  free : ':' ∉ port.toList

variable {argument defaultHost host port : String} {e : Endpoint} {fault : ArgumentFault}

/-! ## The last colon -/

section Cut

theorem splitAtLastColon?_of_free {cs : List Char} (free : ':' ∉ cs) :
    splitAtLastColon? cs = none := by
  have nothing : cs.reverse.dropWhile (· ≠ ':') = [] :=
    List.dropWhile_eq_nil_iff.mpr (forall_reverse_ne_colon free)
  unfold splitAtLastColon?
  simp only [nothing]

theorem LastColon.splitAtLastColon?_eq (last : LastColon argument host port) :
    splitAtLastColon? argument.toList = some (host.toList, port.toList) := by
  rw [last.cut, ← splitAtLastColon?_append last.free, String.toList_append, String.toList_append,
    List.append_assoc]
  rfl

/-- An argument with a colon has a last one. -/
theorem exists_lastColon (mem : ':' ∈ argument.toList) :
    ∃ host port, LastColon argument host port := by
  obtain ⟨behind, front, reversed, free⟩ := List.eq_append_cons_of_mem (List.mem_reverse.mpr mem)
  refine ⟨String.ofList front.reverse, String.ofList behind.reverse, ?_, ?_⟩
  · have parts : argument.toList = front.reverse ++ ':' :: behind.reverse := by
      simpa using congrArg List.reverse reversed
    rw [← String.toList_inj, parts]
    simp
  · rw [String.toList_ofList, List.mem_reverse]
    exact free

theorem LastColon.unique {host' port' : String} (last : LastColon argument host port)
    (last' : LastColon argument host' port') : host = host' ∧ port = port' := by
  have same := Option.some.inj (last.splitAtLastColon?_eq.symm.trans last'.splitAtLastColon?_eq)
  obtain ⟨hosts, ports⟩ := Prod.mk.inj same
  exact ⟨String.toList_inj.mp hosts, String.toList_inj.mp ports⟩

end Cut

/-! ## Ports -/

theorem map_readPort_eq_ok_iff :
    (readPort port).map (⟨host, ·⟩) = .ok e ↔ e.host = host ∧ readPort port = .ok e.port := by
  obtain ⟨name, number⟩ := e
  cases readPort port with
  | error fault => simp [Except.map]
  | ok number' => simp [Except.map, eq_comm]

theorem map_readPort_eq_error_iff :
    (readPort port).map (fun number => (⟨host, number⟩ : Endpoint)) = .error fault ↔
      fault = .invalidPort port ∧ ∀ number, readPort port ≠ .ok number := by
  rw [← readPort_eq_error_iff]
  cases readPort port <;> simp [Except.map]

/-! ## Arguments -/

namespace Endpoint

/-- Without a colon all of an argument is the port. -/
theorem ofArgument_of_free (free : ':' ∉ argument.toList) :
    ofArgument argument defaultHost = (readPort argument).map (⟨defaultHost, ·⟩) := by
  unfold ofArgument
  rw [splitAtLastColon?_of_free free]
  cases readPort argument <;> rfl

/-- With one the host is looked at before the port is. -/
theorem ofArgument_of_lastColon (last : LastColon argument host port) (defaultHost : String) :
    ofArgument argument defaultHost =
      if host = "" then .error (.missingHost argument) else (readPort port).map (⟨host, ·⟩) := by
  unfold ofArgument
  rw [last.splitAtLastColon?_eq]
  split
  next empty =>
    have nameless : host = "" :=
      String.toList_eq_nil_iff.mp (congrArg Prod.fst (Option.some.inj empty))
    rw [if_pos nameless]
  next host' port' filled parts =>
    obtain ⟨rfl, rfl⟩ := Prod.mk.inj (Option.some.inj parts)
    have named : host ≠ "" := fun empty => filled (String.toList_eq_nil_iff.mpr empty)
    rw [if_neg named, String.ofList_toList, String.ofList_toList]
    cases readPort port <;> rfl
  next none => cases none

/-- The ways to read an argument, each with what comes of it. -/
theorem ofArgument_cases (argument defaultHost : String) :
    (':' ∉ argument.toList ∧
      ofArgument argument defaultHost = (readPort argument).map (⟨defaultHost, ·⟩)) ∨
    (∃ port, LastColon argument "" port ∧
      ofArgument argument defaultHost = .error (.missingHost argument)) ∨
    ∃ host port, LastColon argument host port ∧ host ≠ "" ∧
      ofArgument argument defaultHost = (readPort port).map (⟨host, ·⟩) := by
  by_cases mem : ':' ∈ argument.toList
  · obtain ⟨host, port, last⟩ := exists_lastColon mem
    have read := ofArgument_of_lastColon last defaultHost
    by_cases nameless : host = ""
    · rw [if_pos nameless] at read
      exact .inr (.inl ⟨port, nameless ▸ last, read⟩)
    · rw [if_neg nameless] at read
      exact .inr (.inr ⟨host, port, last, nameless, read⟩)
  · exact .inl ⟨mem, ofArgument_of_free mem⟩

/-- What is read as an endpoint is a port, or a host with a port. -/
theorem ofArgument_eq_ok_iff : ofArgument argument defaultHost = .ok e ↔
    (':' ∉ argument.toList ∧ readPort argument = .ok e.port ∧ e.host = defaultHost) ∨
      ∃ host port, LastColon argument host port ∧ host ≠ "" ∧
        readPort port = .ok e.port ∧ e.host = host := by
  constructor
  · intro read
    rcases ofArgument_cases argument defaultHost with
      ⟨free, outcome⟩ | ⟨port, -, outcome⟩ | ⟨host, port, last, named, outcome⟩
    · obtain ⟨same, reads⟩ := map_readPort_eq_ok_iff.mp (outcome.symm.trans read)
      exact .inl ⟨free, reads, same⟩
    · cases outcome.symm.trans read
    · obtain ⟨same, reads⟩ := map_readPort_eq_ok_iff.mp (outcome.symm.trans read)
      exact .inr ⟨host, port, last, named, reads, same⟩
  · rintro (⟨free, reads, same⟩ | ⟨host, port, last, named, reads, same⟩)
    · rw [ofArgument_of_free free]
      exact map_readPort_eq_ok_iff.mpr ⟨same, reads⟩
    · rw [ofArgument_of_lastColon last, if_neg named]
      exact map_readPort_eq_ok_iff.mpr ⟨same, reads⟩

/-- The host is missing if the last colon is the first character, whatever is behind it. -/
theorem ofArgument_eq_missingHost_iff {shown : String} :
    ofArgument argument defaultHost = .error (.missingHost shown) ↔
      shown = argument ∧ ∃ port, LastColon argument "" port := by
  constructor
  · intro refused
    rcases ofArgument_cases argument defaultHost with
      ⟨-, outcome⟩ | ⟨port, last, outcome⟩ | ⟨host, port, -, -, outcome⟩
    · cases (map_readPort_eq_error_iff.mp (outcome.symm.trans refused)).1
    · cases outcome.symm.trans refused
      exact ⟨rfl, port, last⟩
    · cases (map_readPort_eq_error_iff.mp (outcome.symm.trans refused)).1
  · rintro ⟨rfl, port, last⟩
    rw [ofArgument_of_lastColon last, if_pos rfl]

/-- The port is at fault in all other cases. -/
theorem ofArgument_eq_invalidPort_iff {shown : String} :
    ofArgument argument defaultHost = .error (.invalidPort shown) ↔
      (':' ∉ argument.toList ∧ shown = argument ∨
        ∃ host, host ≠ "" ∧ LastColon argument host shown) ∧
      ∀ port, readPort shown ≠ .ok port := by
  constructor
  · intro refused
    rcases ofArgument_cases argument defaultHost with
      ⟨free, outcome⟩ | ⟨port, -, outcome⟩ | ⟨host, port, last, named, outcome⟩
    · obtain ⟨same, unread⟩ := map_readPort_eq_error_iff.mp (outcome.symm.trans refused)
      cases same
      exact ⟨.inl ⟨free, rfl⟩, unread⟩
    · cases outcome.symm.trans refused
    · obtain ⟨same, unread⟩ := map_readPort_eq_error_iff.mp (outcome.symm.trans refused)
      cases same
      exact ⟨.inr ⟨host, named, last⟩, unread⟩
  · rintro ⟨⟨free, rfl⟩ | ⟨host, named, last⟩, unread⟩
    · rw [ofArgument_of_free free]
      exact map_readPort_eq_error_iff.mpr ⟨rfl, unread⟩
    · rw [ofArgument_of_lastColon last, if_neg named]
      exact map_readPort_eq_error_iff.mpr ⟨rfl, unread⟩

/-! ## Texts -/

theorem lastColon_address (e : Endpoint) :
    LastColon e.address e.host (Text.decimal e.port.toNat) :=
  ⟨rfl, colon_notMem_decimal e.port.toNat⟩

/-- An endpoint is determined by its text. -/
theorem text_injective : Function.Injective text := by
  intro a b same
  have addresses : a.address = b.address := (String.append_right_inj "tcp://").mp same
  have last := a.lastColon_address
  rw [addresses] at last
  obtain ⟨hosts, numerals⟩ := last.unique b.lastColon_address
  have numbers : a.port.toNat = b.port.toNat := Text.decimal_injective numerals
  obtain ⟨host, port⟩ := a
  obtain ⟨host', port'⟩ := b
  obtain rfl : host = host' := hosts
  obtain rfl : port = port' := UInt16.toNat_inj.mp numbers
  rfl

/-- **Arguments and texts are inverse.**  An argument is read as an endpoint if it is a port, or a
host and a port with its last colon between them; else its host is missing, or its port is none.
The text of an endpoint that has a host and a port is such an argument behind the scheme, and is
read as this endpoint; and no two endpoints have the same text. -/
theorem arguments_and_texts :
    (∀ argument defaultHost : String,
      (∀ e, ofArgument argument defaultHost = .ok e ↔
        (':' ∉ argument.toList ∧ readPort argument = .ok e.port ∧ e.host = defaultHost) ∨
          ∃ host port, LastColon argument host port ∧ host ≠ "" ∧
            readPort port = .ok e.port ∧ e.host = host) ∧
      (∀ shown, ofArgument argument defaultHost = .error (.missingHost shown) ↔
        shown = argument ∧ ∃ port, LastColon argument "" port) ∧
      ∀ shown, ofArgument argument defaultHost = .error (.invalidPort shown) ↔
        (':' ∉ argument.toList ∧ shown = argument ∨
          ∃ host, host ≠ "" ∧ LastColon argument host shown) ∧
        ∀ port, readPort shown ≠ .ok port) ∧
    (∀ (e : Endpoint) (defaultHost : String), e.host ≠ "" → e.port ≠ 0 →
      ∃ address, e.text = "tcp://" ++ address ∧ ofArgument address defaultHost = .ok e) ∧
    Function.Injective text := by
  refine ⟨fun argument defaultHost => ⟨fun e => ofArgument_eq_ok_iff,
    fun shown => ofArgument_eq_missingHost_iff, fun shown => ofArgument_eq_invalidPort_iff⟩,
    fun e defaultHost named reachable => ?_, text_injective⟩
  exact ⟨e.address, rfl, ofArgument_address named reachable defaultHost⟩

/-- A host with colons of its own, and an argument whose missing host is reported although its port
is none either. -/
theorem arguments_and_texts_of_colons :
    let e : Endpoint := ⟨"::1", 6000⟩
    (∃ address, e.text = "tcp://" ++ address ∧ ofArgument address "localhost" = .ok e) ∧
      ofArgument ":+0" "localhost" = .error (.missingHost ":+0") ∧
      ofArgument "::+0" "localhost" = .error (.invalidPort "+0") ∧
      text ⟨"a:1", 2⟩ ≠ text ⟨"a", 12⟩ := by
  intro e
  obtain ⟨read, back, injective⟩ := arguments_and_texts
  refine ⟨back e "localhost" (by decide) (by decide), ?_, ?_, ?_⟩
  · exact ((read ":+0" "localhost").2.1 ":+0").mpr ⟨rfl, "+0", by decide, by decide⟩
  · exact ((read "::+0" "localhost").2.2 "+0").mpr
      ⟨.inr ⟨":", by decide, by decide, by decide⟩, (readPort_eq_error_iff.mp rfl).2⟩
  · exact fun same => absurd (injective same) (by decide)

end Endpoint

end MessagingConsole
