import Scaffold.Catalog.Basic

/-!
# The built-in catalog

The operations of the scheduling API and its domain types, in the order in which they are
documented. Clients and handlers are generated from this catalog unless another one is given.
-/

namespace Scaffold.Catalog

namespace Builtin

/-- A field that is always there. -/
def required (name : String) (type : TypeExpr) (description : String) : String × Field :=
  (name, { type, required := true, description })

/-- A field that may be missing. -/
def optional (name : String) (type : TypeExpr) (description : String) : String × Field :=
  (name, { type, required := false, description })

/-- A parameter that has to be given. -/
def requiredParam (name : String) (kind : Scalar) (description : String) : String × Param :=
  (name, { kind, required := true, description })

/-- A parameter that may be left out. -/
def optionalParam (name : String) (kind : Scalar) (description : String) : String × Param :=
  (name, { kind, required := false, description })

/-- An operation with a query. -/
def query (name : String) (method : HttpMethod) (path description : String)
    (params : List (String × Param)) (response : Response) (localizeTimes : Bool) :
    String × Endpoint :=
  (name, {
    path, method, description, response, localizeTimes
    payload := .query (.ofList params)
    requiredHeaders := [apiKeyHeader] })

/-- An operation with a body. -/
def body (name : String) (method : HttpMethod) (path description : String)
    (fields : List (String × Field)) (response : Response) (localizeTimes : Bool) :
    String × Endpoint :=
  (name, {
    path, method, description, response, localizeTimes
    payload := .body (.ofList fields)
    requiredHeaders := [apiKeyHeader, contentTypeHeader] })

/-- The domain types. -/
def types : List TypeDefinition := [
  { domain := .user
    description := "A person whose calendar can be booked"
    fields := .ofList [
      required "id" (.scalar .string) "Unique user identifier",
      required "name" (.scalar .string) "Display name",
      required "email" (.scalar .string) "Primary email address",
      required "timezone" (.scalar .string) "IANA timezone name",
      required "createdAt" (.scalar .string) "ISO-8601 creation time"] },
  { domain := .availability
    description := "A free time slot shared by the requested users"
    fields := .ofList [
      required "userIds" (.array (.scalar .string) .suffix) "Users free during the slot",
      required "start" (.scalar .string) "ISO-8601 slot start",
      required "end" (.scalar .string) "ISO-8601 slot end"] },
  { domain := .recurringAvailability
    description := "A weekly working-hours rule"
    fields := .ofList [
      required "id" (.scalar .string) "Rule identifier",
      required "userId" (.scalar .string) "Owner of the rule",
      required "days" (.array (.enum .dayOfWeek) .suffix) "Days the rule applies to",
      required "startTime" (.scalar .string) "Local start time (HH:mm)",
      required "endTime" (.scalar .string) "Local end time (HH:mm)",
      required "timezone" (.scalar .string) "IANA timezone of the rule"] },
  { domain := .availabilityException
    description := "A one-off override of recurring availability"
    fields := .ofList [
      required "id" (.scalar .string) "Exception identifier",
      required "userId" (.scalar .string) "Owner of the exception",
      required "start" (.scalar .string) "ISO-8601 start",
      required "end" (.scalar .string) "ISO-8601 end",
      required "available" (.scalar .boolean) "Whether the user is free in this window",
      optional "reason" (.scalar .string) "Free-text reason"] },
  { domain := .booking
    description := "A confirmed meeting between one or more users"
    fields := .ofList [
      required "id" (.scalar .string) "Booking identifier",
      required "userIds" (.array (.scalar .string) .suffix) "Users attending",
      required "title" (.scalar .string) "Meeting title",
      optional "description" (.scalar .string) "Meeting notes",
      required "start" (.scalar .string) "ISO-8601 start",
      required "end" (.scalar .string) "ISO-8601 end",
      required "status" (.named "'confirmed' | 'cancelled'") "Booking state",
      required "attendees" (.array (.inline "\x7b name: string; email: string \x7d") .generic)
        "External attendees",
      required "createdAt" (.scalar .string) "ISO-8601 creation time"] },
  { domain := .account
    description := "The account that owns the API key"
    fields := .ofList [
      required "id" (.scalar .string) "Account identifier",
      required "name" (.scalar .string) "Account name",
      required "plan" (.scalar .string) "Billing plan",
      required "userCount" (.scalar .number) "Number of users on the account",
      required "createdAt" (.scalar .string) "ISO-8601 creation time"] }]

/-- The operations. -/
def endpoints : List (String × Endpoint) := [
  ("getAccount", {
    path := "/account"
    method := .get
    description := "Get the account that owns the API key"
    payload := .none
    response := ⟨.domain .account, "The current account"⟩
    requiredHeaders := [apiKeyHeader]
    localizeTimes := false }),
  query "listUsers" .get "/users/list"
    "List users on the account" [
      optionalParam "page" .number "Page number, starting at 1",
      optionalParam "limit" .number "Page size"]
    ⟨.array (.domain .user) .suffix, "A page of users"⟩ false,
  query "getUser" .get "/users/get"
    "Get a single user" [
      requiredParam "userId" .string "User identifier"]
    ⟨.domain .user, "The requested user"⟩ false,
  body "addUser" .post "/users/add"
    "Add a user to the account" [
      optional "id" (.scalar .string) "Caller-chosen user identifier",
      required "name" (.scalar .string) "Display name",
      required "email" (.scalar .string) "Primary email address",
      optional "timezone" (.scalar .string) "IANA timezone name"]
    ⟨.domain .user, "The created user"⟩ false,
  body "updateUser" .put "/users/update"
    "Update a user's profile" [
      required "userId" (.scalar .string) "User identifier",
      optional "name" (.scalar .string) "New display name",
      optional "email" (.scalar .string) "New email address",
      optional "timezone" (.scalar .string) "New IANA timezone name"]
    ⟨.domain .user, "The updated user"⟩ false,
  query "deleteUser" .delete "/users/delete"
    "Remove a user from the account" [
      requiredParam "userId" .string "User identifier"]
    ⟨.inline "\x7b success: boolean \x7d", "Deletion result"⟩ false,
  query "getAvailability" .get "/availability"
    "Find time slots where all requested users are free" [
      requiredParam "userIds" .string "Comma-separated user identifiers",
      requiredParam "start" .string "ISO-8601 window start",
      requiredParam "end" .string "ISO-8601 window end",
      optionalParam "duration" .number "Slot length in minutes",
      optionalParam "timezone" .string "IANA timezone for the window"]
    ⟨.array (.domain .availability) .suffix, "Free slots in the window"⟩ true,
  query "listRecurringAvailability" .get "/availability/recurring/list"
    "List a user's weekly availability rules" [
      requiredParam "userId" .string "User identifier"]
    ⟨.array (.domain .recurringAvailability) .suffix, "Weekly rules"⟩ true,
  body "addRecurringAvailability" .post "/availability/recurring/add"
    "Add a weekly availability rule" [
      required "userId" (.scalar .string) "User identifier",
      required "days" (.array (.enum .dayOfWeek) .suffix) "Days the rule applies to",
      required "startTime" (.scalar .string) "Local start time (HH:mm)",
      required "endTime" (.scalar .string) "Local end time (HH:mm)",
      optional "timezone" (.scalar .string) "IANA timezone, defaults to the user's"]
    ⟨.domain .recurringAvailability, "The created rule"⟩ true,
  query "deleteRecurringAvailability" .delete "/availability/recurring/delete"
    "Delete a weekly availability rule" [
      requiredParam "id" .string "Rule identifier"]
    ⟨.inline "\x7b success: boolean \x7d", "Deletion result"⟩ true,
  query "listAvailabilityExceptions" .get "/availability/exceptions/list"
    "List one-off availability overrides for a user" [
      requiredParam "userId" .string "User identifier",
      optionalParam "start" .string "ISO-8601 window start",
      optionalParam "end" .string "ISO-8601 window end"]
    ⟨.array (.domain .availabilityException) .generic, "Overrides in the window"⟩ true,
  body "addAvailabilityException" .post "/availability/exceptions/add"
    "Mark a window as available or unavailable for a user" [
      required "userId" (.scalar .string) "User identifier",
      required "start" (.scalar .string) "ISO-8601 start",
      required "end" (.scalar .string) "ISO-8601 end",
      required "available" (.scalar .boolean) "Whether the user is free in this window",
      optional "reason" (.scalar .string) "Free-text reason"]
    ⟨.domain .availabilityException, "The created override"⟩ true,
  query "deleteAvailabilityException" .delete "/availability/exceptions/delete"
    "Delete an availability override" [
      requiredParam "id" .string "Exception identifier"]
    ⟨.inline "\x7b success: boolean \x7d", "Deletion result"⟩ true,
  query "listBookings" .get "/bookings/list"
    "List bookings, optionally filtered by user, window or status" [
      optionalParam "userId" .string "Only bookings attended by this user",
      optionalParam "start" .string "ISO-8601 window start",
      optionalParam "end" .string "ISO-8601 window end",
      optionalParam "status" .string "confirmed or cancelled",
      optionalParam "limit" .number "Maximum number of bookings"]
    ⟨.array (.domain .booking) .suffix, "Matching bookings"⟩ true,
  query "getBooking" .get "/bookings/get"
    "Get a single booking" [
      requiredParam "bookingId" .string "Booking identifier"]
    ⟨.domain .booking, "The requested booking"⟩ true,
  body "createBooking" .post "/bookings/create"
    "Book a meeting for one or more users" [
      required "userIds" (.array (.scalar .string) .suffix) "Users attending",
      required "title" (.scalar .string) "Meeting title",
      optional "description" (.scalar .string) "Meeting notes",
      required "start" (.scalar .string) "ISO-8601 start",
      required "end" (.scalar .string) "ISO-8601 end",
      optional "attendees" (.array (.inline "\x7b name: string; email: string \x7d") .generic)
        "External attendees"]
    ⟨.domain .booking, "The created booking"⟩ true,
  body "updateBooking" .put "/bookings/update"
    "Reschedule or edit a booking" [
      required "bookingId" (.scalar .string) "Booking identifier",
      optional "title" (.scalar .string) "New title",
      optional "description" (.scalar .string) "New notes",
      optional "start" (.scalar .string) "New ISO-8601 start",
      optional "end" (.scalar .string) "New ISO-8601 end"]
    ⟨.domain .booking, "The updated booking"⟩ true,
  query "cancelBooking" .delete "/bookings/cancel"
    "Cancel a booking" [
      requiredParam "bookingId" .string "Booking identifier",
      optionalParam "reason" .string "Reason shared with attendees",
      optionalParam "notifyAttendees" .boolean "Whether to email attendees"]
    ⟨.inline "\x7b success: boolean; bookingId: string \x7d", "Cancellation result"⟩ true]

end Builtin

/-- The built-in catalog. -/
def builtin : Catalog := ⟨.ofList Builtin.endpoints, Builtin.types⟩

end Scaffold.Catalog
