import IotClient.Logic.Result
import IotClient.Logic.Program
import IotClient.Logic.Run
import IotClient.Logic.Simulation
import IotClient.Model.Bytes
import IotClient.Model.Json
import IotClient.Model.PrivateMessage
import IotClient.Model.Packet
import IotClient.Model.Platform
import IotClient.Model.Machine
import IotClient.Model.Mqtt
import IotClient.Model.MqttTlsClient
import IotClient.Model.Http
import IotClient.Model.Authentication
import IotClient.Model.Client
import IotClient.Model.Framing
import IotClient.Spec.PrivateMessage
import IotClient.Spec.Delivery
import IotClient.Spec.Framing
import IotClient.Proof.JsonString
import IotClient.Proof.JsonText
import IotClient.Proof.JsonFaults
import IotClient.Proof.PrivateMessage
import IotClient.Proof.Delivery
import IotClient.Proof.Framing
import IotClient.Proof.Waiting
import IotClient.Proof.Commands
import IotClient.Proof.Publish
import IotClient.Proof.Subscribe
import IotClient.Proof.Connect
import IotClient.Proof.AtMostOnce
import IotClient.Proof.Steady
import IotClient.Proof.InFlight
import IotClient.Proof.Durability
import IotClient.Proof.Subscriptions
import IotClient.Proof.Faults
import IotClient.Proof.Histories
import IotClient.Proof.Digestion
import IotClient.Proof.Mute
import IotClient.Proof.Session
import IotClient.Proof.Reports
import IotClient.Proof.SessionPresent
import IotClient.Spec.ExactlyOnce
import IotClient.Proof.Tally
import IotClient.Proof.Receiving
import IotClient.Proof.ExactlyOnce
import IotClient.Model.Timer
import IotClient.Proof.Timer
import IotClient.Model.Net
import IotClient.Spec.Net
import IotClient.Proof.Net
import IotClient.Model.Crypto
import IotClient.Proof.Authentication
import IotClient.Proof.Octets
import IotClient.Model.Keygen
import IotClient.Proof.Keygen
import IotClient.Logic.SortedMap
import IotClient.Model.HttpClient
import IotClient.Spec.HttpRequest
import IotClient.Proof.Url
import IotClient.Proof.HttpRequest
import IotClient.Proof.HttpClient
import IotClient.Model.HttpParser
import IotClient.Proof.HttpErrors
import IotClient.Proof.HttpRefinement
import IotClient.Proof.HttpParser
import IotClient.Proof.HttpResponse
import IotClient.Model.Wire
import IotClient.Spec.Wire
import IotClient.Proof.Wire
import IotClient.Proof.Sent
import IotClient.Proof.HttpTurns
import IotClient.Proof.HttpCrawl
import IotClient.Spec.HttpSplit
import IotClient.Proof.HttpCallbacks
import IotClient.Proof.HttpPieces
import IotClient.Proof.HttpBytes
import IotClient.Proof.HttpHalts
import IotClient.Proof.HttpSplit
import IotClient.Proof.HttpSeams
import IotClient.Proof.MqttRefinement
import IotClient.Spec.Twins
import IotClient.Spec.Configuration
import IotClient.Spec.Independence
import IotClient.Proof.Twins
import IotClient.Proof.Configuration
import IotClient.Proof.Independence
