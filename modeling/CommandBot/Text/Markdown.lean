import CommandBot.Text.Basic

/-!
# Markdown escaping

A backslash before each character that chat markdown would act on makes a text appear literally.
-/

namespace CommandBot.Text

/-- The characters that chat markdown acts on; the backtick is code point 96. -/
def isMarkdownControl (c : Char) : Bool :=
  c == '\\' || c == '*' || c == '_' || c == '~' || c == '\x60' || c == '|' || c == '>'

/-- A text with a backslash before each markdown control character. -/
def escapeMarkdown (t : Text) : Text :=
  t.flatMap fun c => if isMarkdownControl c then ['\\', c] else [c]

end CommandBot.Text
