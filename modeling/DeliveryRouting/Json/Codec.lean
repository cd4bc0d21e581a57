import DeliveryRouting.Json.Form
import DeliveryRouting.Json.Printer

/-! # JSON: codecs

A codec ties a type to the form its values are written in: `read` gives the value that a text
stands for, or the first fault of the text, and `write` gives a text for a value. -/

namespace DeliveryRouting.Json

/-- How the values of a type are written and read. -/
structure Codec (α : Type) where
  form : Form
  /-- what a value of the form stands for -/
  ofValue : Value → α
  /-- the value that stands for something -/
  toValue : α → Value

namespace Codec

variable {α : Type}

/-- What a text stands for. -/
def read (c : Codec α) (text : String) : Except Fault α := c.ofValue <$> c.form.readText text

/-- A text that stands for something, over several lines. -/
def write (c : Codec α) (a : α) : String := (c.toValue a).pretty

end Codec

end DeliveryRouting.Json
