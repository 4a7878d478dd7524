/-!
# Pieces

What lies between the separators of a text.
-/

namespace MessagingConsole.Text

/-- What lies before, between and after the separators, empty pieces included. -/
def pieces {α : Type} [DecidableEq α] (separator : α) (text : List α) : List (List α) :=
  text.foldr
    (fun c pieces =>
      if c = separator then [] :: pieces
      else match pieces with
        | [] => [[c]]
        | piece :: rest => (c :: piece) :: rest)
    [[]]

end MessagingConsole.Text
