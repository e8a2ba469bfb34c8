import Switchboard.Console.Demo
import Switchboard.Proofs.Commands.Dispatch
import Switchboard.Proofs.Decimal
import Switchboard.Proofs.Routes
import Switchboard.Proofs.Template.Decomposition

/-!
# Reading what was captured

The text in a slot is in the language of the slot (`captured_admits`), and numbers are read by a
grammar of their own. The two fit together except in one case: a slot for whole numbers takes any
run of digits, and an empty one or one that is too large is no number (`natural_captured`). A slot
for numbers with a point takes nothing that cannot be read (`float_captured`), so adding two of them
never fails.
-/

namespace Switchboard

namespace Arguments

variable {arguments : Arguments} {index : Nat} {value : String}

/-- An argument that is there is its text. -/
theorem text_of_get (h : arguments.values[index]? = some value) :
    arguments.text index = .ok value := by
  rw [text, get?, h]

/-- An argument that is there is what its text is read as. -/
theorem read_of_get {α : Type} (reader : String → Option α) (expected : Placeholder)
    (h : arguments.values[index]? = some value) :
    arguments.read reader expected index =
      match reader value with
      | some result => .ok result
      | none => .error (.invalidArgument index expected value) := by
  rw [read, text_of_get h]
  rfl

/-- Behind the last argument there is none. -/
theorem text_missing (h : arguments.size ≤ index) :
    arguments.text index = .error (.missingArgument index) := by
  rw [text, get?, List.getElem?_eq_none h]

/-- Behind the last argument there is nothing to read. -/
theorem read_missing {α : Type} (reader : String → Option α) (expected : Placeholder)
    (h : arguments.size ≤ index) :
    arguments.read reader expected index = .error (.missingArgument index) := by
  rw [read, text_missing h]
  rfl

/-- A run of digits is read as a number unless it is empty or the number too large. -/
theorem natural_captured (h : arguments.values[index]? = some value)
    (hadmits : Placeholder.Admits .uint value.toList) :
    arguments.natural index =
      if value ≠ "" ∧ Decimal.placeValue value < 2 ^ 64 then .ok (Decimal.placeValue value)
      else .error (.invalidArgument index .uint value) := by
  rw [natural, read_of_get _ _ h, Decimal.natural_digits hadmits]
  split
  · rename_i hread
    split at hread
    · rename_i hvalue
      rw [if_pos hvalue, Option.some.inj hread]
    · cases hread
  · rename_i hread
    split at hread
    · cases hread
    · rename_i hvalue
      rw [if_neg hvalue]

/-- A run of digits is read as the number that it stands for, if that fits. -/
theorem natural_captured_iff (h : arguments.values[index]? = some value)
    (hadmits : Placeholder.Admits .uint value.toList) (number : Nat) :
    arguments.natural index = .ok number ↔
      value ≠ "" ∧ Decimal.placeValue value = number ∧ number < 2 ^ 64 := by
  rw [natural_captured h hadmits]
  constructor
  · intro hnumber
    split at hnumber
    · rename_i hfits
      obtain rfl := Except.ok.inj hnumber
      exact ⟨hfits.1, rfl, hfits.2⟩
    · cases hnumber
  · rintro ⟨hsome, rfl, hsmall⟩
    rw [if_pos ⟨hsome, hsmall⟩]

/-- Digits with a point are read as a number. -/
theorem float_captured (h : arguments.values[index]? = some value)
    (hadmits : Placeholder.Admits .float value.toList) :
    ∃ number, arguments.float index = .ok number ∧ number ≠ .notANumber := by
  obtain ⟨sign, whole, fraction, htext, hsign, hwhole, hsome, hfraction⟩ := hadmits
  obtain ⟨number, hread, hnumber⟩ :=
    Decimal.float_number (by rw [htext, List.append_assoc]) hsign hwhole hsome hfraction
  refine ⟨number, ?_, hnumber⟩
  rw [float, read_of_get _ _ h, hread]

end Arguments

namespace Template

variable {template : Template} {command : String} {limit : Nat} {values : List String}

/-- The arguments are the first texts of a decomposition of the command. -/
theorem captures_decompose (h : template.captures command limit = some values) :
    ∃ texts, template.Decomposes texts command ∧ values = texts.take limit := by
  obtain ⟨texts, hslots, rfl⟩ := Option.map_eq_some_iff.mp h
  exact ⟨texts, (greatest_of_slots hslots).toDecomposes, rfl⟩

/-- There are as many arguments as slots, unless the limit is smaller. -/
theorem captures_length (h : template.captures command limit = some values) :
    values.length = min limit template.arity := by
  obtain ⟨texts, hdecomposes, rfl⟩ := captures_decompose h
  rw [List.length_take, ← hdecomposes.admits.length_eq]
  rfl

/-- An argument is in the language of its slot. -/
theorem captured_admits (h : template.captures command limit = some values) {index : Nat}
    {value : String} (hvalue : values[index]? = some value) {kind : Placeholder}
    (hkind : template.placeholders[index]? = some kind) : kind.Admits value.toList := by
  obtain ⟨texts, hdecomposes, rfl⟩ := captures_decompose h
  have htext : texts[index]? = some value := by
    rw [List.getElem?_take] at hvalue
    split at hvalue
    · exact hvalue
    · cases hvalue
  obtain ⟨hslot, rfl⟩ := List.getElem?_eq_some_iff.mp hkind
  obtain ⟨hplace, rfl⟩ := List.getElem?_eq_some_iff.mp htext
  exact hdecomposes.admits.get hslot hplace

/-- A template that matches a command gives arguments, whatever the limit. -/
theorem captures_of_match (h : template.isMatch command = true) (limit : Nat) :
    ∃ values, template.captures command limit = some values := by
  rw [← Routes.slots_isSome, Option.isSome_iff_exists] at h
  obtain ⟨texts, hslots⟩ := h
  exact ⟨texts.take limit, by rw [captures, hslots, Option.map_some]⟩

end Template

namespace Arguments

/-- The template of the sum of two numbers. -/
def sumTemplate : Template :=
  ⟨[.literal "vget /console/add ", .placeholder .float, .literal " ", .placeholder .float]⟩

/-- It is read from the text that the console binds. -/
theorem read_sum : Template.read "vget /console/add [float] [float]" = .ok sumTemplate := by
  decide

/-- The sum of two captured numbers is always there. -/
theorem sum_captured {template : Template} {command : String} {limit : Nat} {values : List String}
    (hslots : template.placeholders = [.float, .float]) (hlimit : 2 ≤ limit)
    (hcaptures : template.captures command limit = some values) :
    ∃ first second, (Arguments.mk values).float 0 = .ok first ∧
      (Arguments.mk values).float 1 = .ok second ∧
      Console.sum ⟨values⟩ = .ok (Decimal.text (first + second)) := by
  have hsize : values.length = 2 := by
    rw [Template.captures_length hcaptures, Template.arity, hslots]
    exact Nat.min_eq_right hlimit
  obtain ⟨left, right, rfl⟩ := List.length_eq_two.mp hsize
  have hread (index : Nat) (value : String) (hvalue : [left, right][index]? = some value)
      (hslot : template.placeholders[index]? = some .float) :
      ∃ number, (Arguments.mk [left, right]).float index = .ok number ∧ number ≠ .notANumber :=
    float_captured hvalue (Template.captured_admits hcaptures hvalue hslot)
  obtain ⟨first, hfirst, -⟩ := hread 0 left rfl (by rw [hslots]; rfl)
  obtain ⟨second, hsecond, -⟩ := hread 1 right rfl (by rw [hslots]; rfl)
  refine ⟨first, second, hfirst, hsecond, ?_⟩
  rw [Console.sum, hfirst, hsecond]
  rfl

/-- What a template takes from a command can be read. There are as many arguments as slots, unless
the limit is smaller. Each is there as text; one from a slot for numbers with a point is read as a
number; one from a slot for whole numbers is read as the number that its digits stand for, and
reported if it has none or the number does not fit into 64 bits. All others are reported as missing.
So a command that goes to the sum of two numbers is always done, if two arguments are allowed. -/
theorem accessors_captured :
    (∀ (template : Template) (command : String) (limit : Nat), template.isMatch command = true →
      ∃ values, template.captures command limit = some values ∧
        let arguments : Arguments := ⟨values⟩
        arguments.size = min limit template.arity ∧
        (∀ index value, values[index]? = some value →
          arguments.text index = .ok value ∧
          (template.placeholders[index]? = some .float →
            ∃ number, arguments.float index = .ok number ∧ number ≠ .notANumber) ∧
          (template.placeholders[index]? = some .uint →
            (∀ number, arguments.natural index = .ok number ↔
              value ≠ "" ∧ Decimal.placeValue value = number ∧ number < 2 ^ 64) ∧
            (¬ (value ≠ "" ∧ Decimal.placeValue value < 2 ^ 64) →
              arguments.natural index = .error (.invalidArgument index .uint value)))) ∧
        ∀ index, arguments.size ≤ index →
          arguments.text index = .error (.missingArgument index) ∧
          arguments.natural index = .error (.missingArgument index) ∧
          arguments.float index = .error (.missingArgument index)) ∧
    ∀ (commands : Commands Console.Clock) (command : String) (outside : Outside Console.Clock)
      (route : Route Console.Clock) (arguments : Arguments),
      Template.read "vget /console/add [float] [float]" = .ok route.template →
      route.handler = .external Console.add → 2 ≤ commands.settings.maxArguments →
      commands.routes.find? command commands.settings.maxArguments = some (route, arguments) →
      ∃ first second, arguments.float 0 = .ok first ∧ arguments.float 1 = .ok second ∧
        (commands.exec command outside).outcome = .done (Decimal.text (first + second)) := by
  constructor
  · intro template command limit hmatch
    obtain ⟨values, hcaptures⟩ := Template.captures_of_match hmatch limit
    refine ⟨values, hcaptures, Template.captures_length hcaptures, ?_, ?_⟩
    · intro index value hvalue
      refine ⟨text_of_get hvalue, fun hslot ↦ ?_, fun hslot ↦ ?_⟩
      · exact float_captured hvalue (Template.captured_admits hcaptures hvalue hslot)
      · have hadmits := Template.captured_admits hcaptures hvalue hslot
        refine ⟨natural_captured_iff hvalue hadmits, fun hnone ↦ ?_⟩
        rw [natural_captured hvalue hadmits, if_neg hnone]
    · intro index hindex
      exact ⟨text_missing hindex, read_missing _ _ hindex, read_missing _ _ hindex⟩
  · intro commands command outside route arguments hread hhandler hlimit hfind
    have hslots : route.template.placeholders = [.float, .float] := by
      rw [← Except.ok.inj (read_sum.symm.trans hread)]
      rfl
    obtain ⟨first, second, hfirst, hsecond, hsum⟩ :=
      sum_captured hslots hlimit (Routes.captures_of_find hfind)
    refine ⟨first, second, hfirst, hsecond, ?_⟩
    rw [Commands.exec_eq, hfind]
    simp only [hhandler, Commands.invoke, Run.after, Console.add, hsum]
    rfl

/-- A number with leading zeros, and one with a sign and no digit in front of its point. -/
theorem sample_accessors :
    let template : Template := ⟨[.placeholder .uint, .literal " ", .placeholder .float]⟩
    let board : Board Console.Clock Unit := Console.withDemoCommands (.new {} .empty)
    (∃ values, template.captures "007 -.5" 5 = some values ∧
      (Arguments.mk values).natural 0 = .ok 7 ∧
      (∃ number, (Arguments.mk values).float 1 = .ok number ∧ number ≠ .notANumber) ∧
      (Arguments.mk values).text 2 = .error (.missingArgument 2)) ∧
    ∃ message, (board.commands.exec "vget /console/add +.5 1.25" (.new .start)).outcome =
      .done message := by
  intro template board
  obtain ⟨hread, hsum⟩ := accessors_captured
  constructor
  · obtain ⟨values, hcaptures, -, hthere, hmissing⟩ := hread template "007 -.5" 5 (by decide)
    have hall : template.captures "007 -.5" 5 = some ["007", "-.5"] := by decide
    obtain rfl : values = ["007", "-.5"] := Option.some.inj (hcaptures.symm.trans hall)
    obtain ⟨-, -, hnatural⟩ := hthere 0 "007" rfl
    obtain ⟨-, hfloat, -⟩ := hthere 1 "-.5" rfl
    have hseven := ((hnatural rfl).1 7).mpr (by decide)
    exact ⟨_, hcaptures, hseven, hfloat rfl, (hmissing 2 (by decide)).1⟩
  · have hfind : board.commands.routes.find? "vget /console/add +.5 1.25"
        board.commands.settings.maxArguments =
          some (⟨sumTemplate, .external Console.add, "Add two decimal numbers"⟩,
            ⟨["+.5", "1.25"]⟩) := by
      rfl
    obtain ⟨first, second, -, -, hdone⟩ :=
      hsum board.commands _ (.new .start) _ _ read_sum rfl (by decide) hfind
    exact ⟨_, hdone⟩

end Arguments

end Switchboard
