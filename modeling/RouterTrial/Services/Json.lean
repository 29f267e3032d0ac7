import RouterTrial.Attempt.Json
import RouterTrial.Services

/-!
# Calls as JSON

What is sent to the services: the query for a decision, the feedback on a payment, and the order for
a payment, which carries the details of an invented customer.
-/

namespace RouterTrial

/-! ### Decisions and feedback -/

/-- The JSON form of the query `q` by a `merchant`. -/
def DecisionQuery.toJson (merchant : String) (elimination : Bool) (q : DecisionQuery) : Json :=
  .object
    [("merchantId", .string merchant), ("eligibleGatewayList", .array (q.eligible.map .string)),
      ("rankingAlgorithm", q.ranking.toJson), ("eliminationEnabled", .bool elimination),
      ("paymentInfo",
        .object
          [("paymentId", q.id.toJson), ("amount", .float q.attributes.amount),
            ("currency", .string q.attributes.currency),
            ("customerId", .string q.attributes.customer),
            ("paymentType", .string q.attributes.paymentType),
            ("paymentMethodType", .string q.attributes.methodType),
            ("paymentMethod", .string q.attributes.method)])]

/-- The JSON form of the feedback `f` by a `merchant`. -/
def Feedback.toJson (merchant : String) (f : Feedback) : Json :=
  .object
    [("merchantId", .string merchant), ("gateway", .string f.connector),
      ("gatewayReferenceId", .null), ("status", f.status.toJson), ("paymentId", f.id.toJson),
      ("enforceDynamicRoutingFailure", .null)]

/-! ### Orders -/

namespace PaymentOrder

/-- The connector that has to process the payment of `o`. -/
def routing (o : PaymentOrder) : Json :=
  .object
    [("type", .string "single"),
      ("data",
        .object [("connector", .string o.connector), ("merchant_connector_id", .string o.account)])]

/-- The details of the `card`. -/
def cardDetails (card : Card) : Json :=
  .object
    [("card",
      .object
        [("card_number", .string card.number), ("card_exp_month", .string "10"),
          ("card_exp_year", .string "30"), ("card_holder_name", .string "John Doe"),
          ("card_cvc", .string "123")])]

/-- The address of the customer. -/
def billing : Json :=
  .object
    [("address",
      .object
        [("line1", .string "1467"), ("line2", .string "Harrison Street"),
          ("line3", .string "Harrison Street"), ("city", .string "San Francisco"),
          ("state", .string "California"), ("zip", .string "94122"), ("country", .string "US"),
          ("first_name", .string "John"), ("last_name", .string "Doe")]),
      ("phone", .object [("number", .string "8056594427"), ("country_code", .string "+1")]),
      ("email", .string "example@example.com")]

/-- The browser of the customer. -/
def browser : Json :=
  .object
    [("user_agent", .string "Mozilla/5.0"), ("accept_header", .string "text/html"),
      ("language", .string "en-US"), ("color_depth", .int 24), ("screen_height", .int 1080),
      ("screen_width", .int 1920), ("time_zone", .int 0), ("java_enabled", .bool true),
      ("java_script_enabled", .bool true), ("ip_address", .string "127.0.0.1")]

/-- The JSON form of the order `o` under a `profile`. -/
def toJson (profile : String) (o : PaymentOrder) : Json :=
  .object
    [("amount", .int 640), ("currency", .string "USD"), ("routing", o.routing),
      ("confirm", .bool true), ("capture_method", .string "automatic"),
      ("profile_id", .string profile), ("amount_to_capture", .int 640),
      ("customer_id", .string "cus_jkjdkjakd"), ("email", .string "guest@example.com"),
      ("name", .string "John Doe"), ("phone", .string "999999999"),
      ("phone_country_code", .string "+1"),
      ("description", .string "Routing feedback simulation payment"),
      ("authentication_type", .string "no_three_ds"), ("return_url", .string "https://example.com"),
      ("payment_method", .string "card"), ("payment_method_type", .string "credit"),
      ("payment_method_data", cardDetails o.card), ("billing", billing), ("browser_info", browser),
      ("statement_descriptor_name", .string "routing-sim"),
      ("statement_descriptor_suffix", .string "SIM"),
      ("metadata", .object [("new_customer", .string "true"), ("udf1", .string "value1")])]

end PaymentOrder

end RouterTrial
