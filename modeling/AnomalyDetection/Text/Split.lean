namespace AnomalyDetection.Text

-- The parts between the separators; a text without separator is one part.
def split (separator : Char) : List Char → List (List Char)
  | [] => [[]]
  | c :: s =>
    if c = separator then [] :: split separator s
    else match split separator s with
      | part :: parts => (c :: part) :: parts
      | [] => [[c]]

theorem split_ne_nil (separator : Char) (s : List Char) : split separator s ≠ [] := by
  cases s with
  | nil => simp [split]
  | cons c s =>
    simp only [split]
    split
    · simp
    · split <;> simp

-- What follows a text that stands in front, if it does.
def after? : List Char → List Char → Option (List Char)
  | [], s => some s
  | c :: front, d :: s => if c = d then after? front s else none
  | _ :: _, [] => none

-- The lines of a text. A line ends in a line feed, which may have one carriage return before it;
-- the last line may go without.
def lines (s : List Char) : List (List Char) :=
  go s [] []
where
  -- `line` is the line so far and `done` the lines before, both last to first.
  go : List Char → List Char → List (List Char) → List (List Char)
    | [], [], done => done.reverse
    | [], line, done => (line.reverse :: done).reverse
    | '\n' :: s, '\r' :: line, done => go s [] (line.reverse :: done)
    | '\n' :: s, line, done => go s [] (line.reverse :: done)
    | c :: s, line, done => go s (c :: line) done

end AnomalyDetection.Text
