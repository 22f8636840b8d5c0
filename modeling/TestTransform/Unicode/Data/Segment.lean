/-
The Unicode 16.0 text segmentation properties.
-/

namespace TestTransform
namespace Unicode
namespace Data

/-- The Grapheme_Cluster_Break value of every code point that has one other than Other, as runs. -/
def graphemeBreakRuns : List String := [
  "0-9:Control a:LF b-c:Control d:CR e-1f:Control 7f-9f:Control ad:Control 300-36f:Extend",
  "483-489:Extend 591-5bd:Extend 5bf:Extend 5c1-5c2:Extend 5c4-5c5:Extend 5c7:Extend",
  "600-605:Prepend 610-61a:Extend 61c:Control 64b-65f:Extend 670:Extend 6d6-6dc:Extend",
  "6dd:Prepend 6df-6e4:Extend 6e7-6e8:Extend 6ea-6ed:Extend 70f:Prepend 711:Extend",
  "730-74a:Extend 7a6-7b0:Extend 7eb-7f3:Extend 7fd:Extend 816-819:Extend 81b-823:Extend",
  "825-827:Extend 829-82d:Extend 859-85b:Extend 890-891:Prepend 897-89f:Extend",
  "8ca-8e1:Extend 8e2:Prepend 8e3-902:Extend 903:SpacingMark 93a:Extend 93b:SpacingMark",
  "93c:Extend 93e-940:SpacingMark 941-948:Extend 949-94c:SpacingMark 94d:Extend",
  "94e-94f:SpacingMark 951-957:Extend 962-963:Extend 981:Extend 982-983:SpacingMark",
  "9bc:Extend 9be:Extend 9bf-9c0:SpacingMark 9c1-9c4:Extend 9c7-9c8:SpacingMark",
  "9cb-9cc:SpacingMark 9cd:Extend 9d7:Extend 9e2-9e3:Extend 9fe:Extend a01-a02:Extend",
  "a03:SpacingMark a3c:Extend a3e-a40:SpacingMark a41-a42:Extend a47-a48:Extend",
  "a4b-a4d:Extend a51:Extend a70-a71:Extend a75:Extend a81-a82:Extend a83:SpacingMark",
  "abc:Extend abe-ac0:SpacingMark ac1-ac5:Extend ac7-ac8:Extend ac9:SpacingMark",
  "acb-acc:SpacingMark acd:Extend ae2-ae3:Extend afa-aff:Extend b01:Extend",
  "b02-b03:SpacingMark b3c:Extend b3e-b3f:Extend b40:SpacingMark b41-b44:Extend",
  "b47-b48:SpacingMark b4b-b4c:SpacingMark b4d:Extend b55-b57:Extend b62-b63:Extend",
  "b82:Extend bbe:Extend bbf:SpacingMark bc0:Extend bc1-bc2:SpacingMark bc6-bc8:SpacingMark",
  "bca-bcc:SpacingMark bcd:Extend bd7:Extend c00:Extend c01-c03:SpacingMark c04:Extend",
  "c3c:Extend c3e-c40:Extend c41-c44:SpacingMark c46-c48:Extend c4a-c4d:Extend",
  "c55-c56:Extend c62-c63:Extend c81:Extend c82-c83:SpacingMark cbc:Extend cbe:SpacingMark",
  "cbf-cc0:Extend cc1:SpacingMark cc2:Extend cc3-cc4:SpacingMark cc6-cc8:Extend",
  "cca-ccd:Extend cd5-cd6:Extend ce2-ce3:Extend cf3:SpacingMark d00-d01:Extend",
  "d02-d03:SpacingMark d3b-d3c:Extend d3e:Extend d3f-d40:SpacingMark d41-d44:Extend",
  "d46-d48:SpacingMark d4a-d4c:SpacingMark d4d:Extend d4e:Prepend d57:Extend d62-d63:Extend",
  "d81:Extend d82-d83:SpacingMark dca:Extend dcf:Extend dd0-dd1:SpacingMark dd2-dd4:Extend",
  "dd6:Extend dd8-dde:SpacingMark ddf:Extend df2-df3:SpacingMark e31:Extend e33:SpacingMark",
  "e34-e3a:Extend e47-e4e:Extend eb1:Extend eb3:SpacingMark eb4-ebc:Extend ec8-ece:Extend",
  "f18-f19:Extend f35:Extend f37:Extend f39:Extend f3e-f3f:SpacingMark f71-f7e:Extend",
  "f7f:SpacingMark f80-f84:Extend f86-f87:Extend f8d-f97:Extend f99-fbc:Extend fc6:Extend",
  "102d-1030:Extend 1031:SpacingMark 1032-1037:Extend 1039-103a:Extend",
  "103b-103c:SpacingMark 103d-103e:Extend 1056-1057:SpacingMark 1058-1059:Extend",
  "105e-1060:Extend 1071-1074:Extend 1082:Extend 1084:SpacingMark 1085-1086:Extend",
  "108d:Extend 109d:Extend 1100-115f:L 1160-11a7:V 11a8-11ff:T 135d-135f:Extend",
  "1712-1715:Extend 1732-1734:Extend 1752-1753:Extend 1772-1773:Extend 17b4-17b5:Extend",
  "17b6:SpacingMark 17b7-17bd:Extend 17be-17c5:SpacingMark 17c6:Extend",
  "17c7-17c8:SpacingMark 17c9-17d3:Extend 17dd:Extend 180b-180d:Extend 180e:Control",
  "180f:Extend 1885-1886:Extend 18a9:Extend 1920-1922:Extend 1923-1926:SpacingMark",
  "1927-1928:Extend 1929-192b:SpacingMark 1930-1931:SpacingMark 1932:Extend",
  "1933-1938:SpacingMark 1939-193b:Extend 1a17-1a18:Extend 1a19-1a1a:SpacingMark",
  "1a1b:Extend 1a55:SpacingMark 1a56:Extend 1a57:SpacingMark 1a58-1a5e:Extend 1a60:Extend",
  "1a62:Extend 1a65-1a6c:Extend 1a6d-1a72:SpacingMark 1a73-1a7c:Extend 1a7f:Extend",
  "1ab0-1ace:Extend 1b00-1b03:Extend 1b04:SpacingMark 1b34-1b3d:Extend",
  "1b3e-1b41:SpacingMark 1b42-1b44:Extend 1b6b-1b73:Extend 1b80-1b81:Extend",
  "1b82:SpacingMark 1ba1:SpacingMark 1ba2-1ba5:Extend 1ba6-1ba7:SpacingMark",
  "1ba8-1bad:Extend 1be6:Extend 1be7:SpacingMark 1be8-1be9:Extend 1bea-1bec:SpacingMark",
  "1bed:Extend 1bee:SpacingMark 1bef-1bf3:Extend 1c24-1c2b:SpacingMark 1c2c-1c33:Extend",
  "1c34-1c35:SpacingMark 1c36-1c37:Extend 1cd0-1cd2:Extend 1cd4-1ce0:Extend",
  "1ce1:SpacingMark 1ce2-1ce8:Extend 1ced:Extend 1cf4:Extend 1cf7:SpacingMark",
  "1cf8-1cf9:Extend 1dc0-1dff:Extend 200b:Control 200c:Extend 200d:ZWJ 200e-200f:Control",
  "2028-202e:Control 2060-206f:Control 20d0-20f0:Extend 2cef-2cf1:Extend 2d7f:Extend",
  "2de0-2dff:Extend 302a-302f:Extend 3099-309a:Extend a66f-a672:Extend a674-a67d:Extend",
  "a69e-a69f:Extend a6f0-a6f1:Extend a802:Extend a806:Extend a80b:Extend",
  "a823-a824:SpacingMark a825-a826:Extend a827:SpacingMark a82c:Extend",
  "a880-a881:SpacingMark a8b4-a8c3:SpacingMark a8c4-a8c5:Extend a8e0-a8f1:Extend",
  "a8ff:Extend a926-a92d:Extend a947-a951:Extend a952:SpacingMark a953:Extend a960-a97c:L",
  "a980-a982:Extend a983:SpacingMark a9b3:Extend a9b4-a9b5:SpacingMark a9b6-a9b9:Extend",
  "a9ba-a9bb:SpacingMark a9bc-a9bd:Extend a9be-a9bf:SpacingMark a9c0:Extend a9e5:Extend",
  "aa29-aa2e:Extend aa2f-aa30:SpacingMark aa31-aa32:Extend aa33-aa34:SpacingMark",
  "aa35-aa36:Extend aa43:Extend aa4c:Extend aa4d:SpacingMark aa7c:Extend aab0:Extend",
  "aab2-aab4:Extend aab7-aab8:Extend aabe-aabf:Extend aac1:Extend aaeb:SpacingMark",
  "aaec-aaed:Extend aaee-aaef:SpacingMark aaf5:SpacingMark aaf6:Extend",
  "abe3-abe4:SpacingMark abe5:Extend abe6-abe7:SpacingMark abe8:Extend",
  "abe9-abea:SpacingMark abec:SpacingMark abed:Extend ac00:LV ac01-ac1b:LVT ac1c:LV",
  "ac1d-ac37:LVT ac38:LV ac39-ac53:LVT ac54:LV ac55-ac6f:LVT ac70:LV ac71-ac8b:LVT ac8c:LV",
  "ac8d-aca7:LVT aca8:LV aca9-acc3:LVT acc4:LV acc5-acdf:LVT ace0:LV ace1-acfb:LVT acfc:LV",
  "acfd-ad17:LVT ad18:LV ad19-ad33:LVT ad34:LV ad35-ad4f:LVT ad50:LV ad51-ad6b:LVT ad6c:LV",
  "ad6d-ad87:LVT ad88:LV ad89-ada3:LVT ada4:LV ada5-adbf:LVT adc0:LV adc1-addb:LVT addc:LV",
  "addd-adf7:LVT adf8:LV adf9-ae13:LVT ae14:LV ae15-ae2f:LVT ae30:LV ae31-ae4b:LVT ae4c:LV",
  "ae4d-ae67:LVT ae68:LV ae69-ae83:LVT ae84:LV ae85-ae9f:LVT aea0:LV aea1-aebb:LVT aebc:LV",
  "aebd-aed7:LVT aed8:LV aed9-aef3:LVT aef4:LV aef5-af0f:LVT af10:LV af11-af2b:LVT af2c:LV",
  "af2d-af47:LVT af48:LV af49-af63:LVT af64:LV af65-af7f:LVT af80:LV af81-af9b:LVT af9c:LV",
  "af9d-afb7:LVT afb8:LV afb9-afd3:LVT afd4:LV afd5-afef:LVT aff0:LV aff1-b00b:LVT b00c:LV",
  "b00d-b027:LVT b028:LV b029-b043:LVT b044:LV b045-b05f:LVT b060:LV b061-b07b:LVT b07c:LV",
  "b07d-b097:LVT b098:LV b099-b0b3:LVT b0b4:LV b0b5-b0cf:LVT b0d0:LV b0d1-b0eb:LVT b0ec:LV",
  "b0ed-b107:LVT b108:LV b109-b123:LVT b124:LV b125-b13f:LVT b140:LV b141-b15b:LVT b15c:LV",
  "b15d-b177:LVT b178:LV b179-b193:LVT b194:LV b195-b1af:LVT b1b0:LV b1b1-b1cb:LVT b1cc:LV",
  "b1cd-b1e7:LVT b1e8:LV b1e9-b203:LVT b204:LV b205-b21f:LVT b220:LV b221-b23b:LVT b23c:LV",
  "b23d-b257:LVT b258:LV b259-b273:LVT b274:LV b275-b28f:LVT b290:LV b291-b2ab:LVT b2ac:LV",
  "b2ad-b2c7:LVT b2c8:LV b2c9-b2e3:LVT b2e4:LV b2e5-b2ff:LVT b300:LV b301-b31b:LVT b31c:LV",
  "b31d-b337:LVT b338:LV b339-b353:LVT b354:LV b355-b36f:LVT b370:LV b371-b38b:LVT b38c:LV",
  "b38d-b3a7:LVT b3a8:LV b3a9-b3c3:LVT b3c4:LV b3c5-b3df:LVT b3e0:LV b3e1-b3fb:LVT b3fc:LV",
  "b3fd-b417:LVT b418:LV b419-b433:LVT b434:LV b435-b44f:LVT b450:LV b451-b46b:LVT b46c:LV",
  "b46d-b487:LVT b488:LV b489-b4a3:LVT b4a4:LV b4a5-b4bf:LVT b4c0:LV b4c1-b4db:LVT b4dc:LV",
  "b4dd-b4f7:LVT b4f8:LV b4f9-b513:LVT b514:LV b515-b52f:LVT b530:LV b531-b54b:LVT b54c:LV",
  "b54d-b567:LVT b568:LV b569-b583:LVT b584:LV b585-b59f:LVT b5a0:LV b5a1-b5bb:LVT b5bc:LV",
  "b5bd-b5d7:LVT b5d8:LV b5d9-b5f3:LVT b5f4:LV b5f5-b60f:LVT b610:LV b611-b62b:LVT b62c:LV",
  "b62d-b647:LVT b648:LV b649-b663:LVT b664:LV b665-b67f:LVT b680:LV b681-b69b:LVT b69c:LV",
  "b69d-b6b7:LVT b6b8:LV b6b9-b6d3:LVT b6d4:LV b6d5-b6ef:LVT b6f0:LV b6f1-b70b:LVT b70c:LV",
  "b70d-b727:LVT b728:LV b729-b743:LVT b744:LV b745-b75f:LVT b760:LV b761-b77b:LVT b77c:LV",
  "b77d-b797:LVT b798:LV b799-b7b3:LVT b7b4:LV b7b5-b7cf:LVT b7d0:LV b7d1-b7eb:LVT b7ec:LV",
  "b7ed-b807:LVT b808:LV b809-b823:LVT b824:LV b825-b83f:LVT b840:LV b841-b85b:LVT b85c:LV",
  "b85d-b877:LVT b878:LV b879-b893:LVT b894:LV b895-b8af:LVT b8b0:LV b8b1-b8cb:LVT b8cc:LV",
  "b8cd-b8e7:LVT b8e8:LV b8e9-b903:LVT b904:LV b905-b91f:LVT b920:LV b921-b93b:LVT b93c:LV",
  "b93d-b957:LVT b958:LV b959-b973:LVT b974:LV b975-b98f:LVT b990:LV b991-b9ab:LVT b9ac:LV",
  "b9ad-b9c7:LVT b9c8:LV b9c9-b9e3:LVT b9e4:LV b9e5-b9ff:LVT ba00:LV ba01-ba1b:LVT ba1c:LV",
  "ba1d-ba37:LVT ba38:LV ba39-ba53:LVT ba54:LV ba55-ba6f:LVT ba70:LV ba71-ba8b:LVT ba8c:LV",
  "ba8d-baa7:LVT baa8:LV baa9-bac3:LVT bac4:LV bac5-badf:LVT bae0:LV bae1-bafb:LVT bafc:LV",
  "bafd-bb17:LVT bb18:LV bb19-bb33:LVT bb34:LV bb35-bb4f:LVT bb50:LV bb51-bb6b:LVT bb6c:LV",
  "bb6d-bb87:LVT bb88:LV bb89-bba3:LVT bba4:LV bba5-bbbf:LVT bbc0:LV bbc1-bbdb:LVT bbdc:LV",
  "bbdd-bbf7:LVT bbf8:LV bbf9-bc13:LVT bc14:LV bc15-bc2f:LVT bc30:LV bc31-bc4b:LVT bc4c:LV",
  "bc4d-bc67:LVT bc68:LV bc69-bc83:LVT bc84:LV bc85-bc9f:LVT bca0:LV bca1-bcbb:LVT bcbc:LV",
  "bcbd-bcd7:LVT bcd8:LV bcd9-bcf3:LVT bcf4:LV bcf5-bd0f:LVT bd10:LV bd11-bd2b:LVT bd2c:LV",
  "bd2d-bd47:LVT bd48:LV bd49-bd63:LVT bd64:LV bd65-bd7f:LVT bd80:LV bd81-bd9b:LVT bd9c:LV",
  "bd9d-bdb7:LVT bdb8:LV bdb9-bdd3:LVT bdd4:LV bdd5-bdef:LVT bdf0:LV bdf1-be0b:LVT be0c:LV",
  "be0d-be27:LVT be28:LV be29-be43:LVT be44:LV be45-be5f:LVT be60:LV be61-be7b:LVT be7c:LV",
  "be7d-be97:LVT be98:LV be99-beb3:LVT beb4:LV beb5-becf:LVT bed0:LV bed1-beeb:LVT beec:LV",
  "beed-bf07:LVT bf08:LV bf09-bf23:LVT bf24:LV bf25-bf3f:LVT bf40:LV bf41-bf5b:LVT bf5c:LV",
  "bf5d-bf77:LVT bf78:LV bf79-bf93:LVT bf94:LV bf95-bfaf:LVT bfb0:LV bfb1-bfcb:LVT bfcc:LV",
  "bfcd-bfe7:LVT bfe8:LV bfe9-c003:LVT c004:LV c005-c01f:LVT c020:LV c021-c03b:LVT c03c:LV",
  "c03d-c057:LVT c058:LV c059-c073:LVT c074:LV c075-c08f:LVT c090:LV c091-c0ab:LVT c0ac:LV",
  "c0ad-c0c7:LVT c0c8:LV c0c9-c0e3:LVT c0e4:LV c0e5-c0ff:LVT c100:LV c101-c11b:LVT c11c:LV",
  "c11d-c137:LVT c138:LV c139-c153:LVT c154:LV c155-c16f:LVT c170:LV c171-c18b:LVT c18c:LV",
  "c18d-c1a7:LVT c1a8:LV c1a9-c1c3:LVT c1c4:LV c1c5-c1df:LVT c1e0:LV c1e1-c1fb:LVT c1fc:LV",
  "c1fd-c217:LVT c218:LV c219-c233:LVT c234:LV c235-c24f:LVT c250:LV c251-c26b:LVT c26c:LV",
  "c26d-c287:LVT c288:LV c289-c2a3:LVT c2a4:LV c2a5-c2bf:LVT c2c0:LV c2c1-c2db:LVT c2dc:LV",
  "c2dd-c2f7:LVT c2f8:LV c2f9-c313:LVT c314:LV c315-c32f:LVT c330:LV c331-c34b:LVT c34c:LV",
  "c34d-c367:LVT c368:LV c369-c383:LVT c384:LV c385-c39f:LVT c3a0:LV c3a1-c3bb:LVT c3bc:LV",
  "c3bd-c3d7:LVT c3d8:LV c3d9-c3f3:LVT c3f4:LV c3f5-c40f:LVT c410:LV c411-c42b:LVT c42c:LV",
  "c42d-c447:LVT c448:LV c449-c463:LVT c464:LV c465-c47f:LVT c480:LV c481-c49b:LVT c49c:LV",
  "c49d-c4b7:LVT c4b8:LV c4b9-c4d3:LVT c4d4:LV c4d5-c4ef:LVT c4f0:LV c4f1-c50b:LVT c50c:LV",
  "c50d-c527:LVT c528:LV c529-c543:LVT c544:LV c545-c55f:LVT c560:LV c561-c57b:LVT c57c:LV",
  "c57d-c597:LVT c598:LV c599-c5b3:LVT c5b4:LV c5b5-c5cf:LVT c5d0:LV c5d1-c5eb:LVT c5ec:LV",
  "c5ed-c607:LVT c608:LV c609-c623:LVT c624:LV c625-c63f:LVT c640:LV c641-c65b:LVT c65c:LV",
  "c65d-c677:LVT c678:LV c679-c693:LVT c694:LV c695-c6af:LVT c6b0:LV c6b1-c6cb:LVT c6cc:LV",
  "c6cd-c6e7:LVT c6e8:LV c6e9-c703:LVT c704:LV c705-c71f:LVT c720:LV c721-c73b:LVT c73c:LV",
  "c73d-c757:LVT c758:LV c759-c773:LVT c774:LV c775-c78f:LVT c790:LV c791-c7ab:LVT c7ac:LV",
  "c7ad-c7c7:LVT c7c8:LV c7c9-c7e3:LVT c7e4:LV c7e5-c7ff:LVT c800:LV c801-c81b:LVT c81c:LV",
  "c81d-c837:LVT c838:LV c839-c853:LVT c854:LV c855-c86f:LVT c870:LV c871-c88b:LVT c88c:LV",
  "c88d-c8a7:LVT c8a8:LV c8a9-c8c3:LVT c8c4:LV c8c5-c8df:LVT c8e0:LV c8e1-c8fb:LVT c8fc:LV",
  "c8fd-c917:LVT c918:LV c919-c933:LVT c934:LV c935-c94f:LVT c950:LV c951-c96b:LVT c96c:LV",
  "c96d-c987:LVT c988:LV c989-c9a3:LVT c9a4:LV c9a5-c9bf:LVT c9c0:LV c9c1-c9db:LVT c9dc:LV",
  "c9dd-c9f7:LVT c9f8:LV c9f9-ca13:LVT ca14:LV ca15-ca2f:LVT ca30:LV ca31-ca4b:LVT ca4c:LV",
  "ca4d-ca67:LVT ca68:LV ca69-ca83:LVT ca84:LV ca85-ca9f:LVT caa0:LV caa1-cabb:LVT cabc:LV",
  "cabd-cad7:LVT cad8:LV cad9-caf3:LVT caf4:LV caf5-cb0f:LVT cb10:LV cb11-cb2b:LVT cb2c:LV",
  "cb2d-cb47:LVT cb48:LV cb49-cb63:LVT cb64:LV cb65-cb7f:LVT cb80:LV cb81-cb9b:LVT cb9c:LV",
  "cb9d-cbb7:LVT cbb8:LV cbb9-cbd3:LVT cbd4:LV cbd5-cbef:LVT cbf0:LV cbf1-cc0b:LVT cc0c:LV",
  "cc0d-cc27:LVT cc28:LV cc29-cc43:LVT cc44:LV cc45-cc5f:LVT cc60:LV cc61-cc7b:LVT cc7c:LV",
  "cc7d-cc97:LVT cc98:LV cc99-ccb3:LVT ccb4:LV ccb5-cccf:LVT ccd0:LV ccd1-cceb:LVT ccec:LV",
  "cced-cd07:LVT cd08:LV cd09-cd23:LVT cd24:LV cd25-cd3f:LVT cd40:LV cd41-cd5b:LVT cd5c:LV",
  "cd5d-cd77:LVT cd78:LV cd79-cd93:LVT cd94:LV cd95-cdaf:LVT cdb0:LV cdb1-cdcb:LVT cdcc:LV",
  "cdcd-cde7:LVT cde8:LV cde9-ce03:LVT ce04:LV ce05-ce1f:LVT ce20:LV ce21-ce3b:LVT ce3c:LV",
  "ce3d-ce57:LVT ce58:LV ce59-ce73:LVT ce74:LV ce75-ce8f:LVT ce90:LV ce91-ceab:LVT ceac:LV",
  "cead-cec7:LVT cec8:LV cec9-cee3:LVT cee4:LV cee5-ceff:LVT cf00:LV cf01-cf1b:LVT cf1c:LV",
  "cf1d-cf37:LVT cf38:LV cf39-cf53:LVT cf54:LV cf55-cf6f:LVT cf70:LV cf71-cf8b:LVT cf8c:LV",
  "cf8d-cfa7:LVT cfa8:LV cfa9-cfc3:LVT cfc4:LV cfc5-cfdf:LVT cfe0:LV cfe1-cffb:LVT cffc:LV",
  "cffd-d017:LVT d018:LV d019-d033:LVT d034:LV d035-d04f:LVT d050:LV d051-d06b:LVT d06c:LV",
  "d06d-d087:LVT d088:LV d089-d0a3:LVT d0a4:LV d0a5-d0bf:LVT d0c0:LV d0c1-d0db:LVT d0dc:LV",
  "d0dd-d0f7:LVT d0f8:LV d0f9-d113:LVT d114:LV d115-d12f:LVT d130:LV d131-d14b:LVT d14c:LV",
  "d14d-d167:LVT d168:LV d169-d183:LVT d184:LV d185-d19f:LVT d1a0:LV d1a1-d1bb:LVT d1bc:LV",
  "d1bd-d1d7:LVT d1d8:LV d1d9-d1f3:LVT d1f4:LV d1f5-d20f:LVT d210:LV d211-d22b:LVT d22c:LV",
  "d22d-d247:LVT d248:LV d249-d263:LVT d264:LV d265-d27f:LVT d280:LV d281-d29b:LVT d29c:LV",
  "d29d-d2b7:LVT d2b8:LV d2b9-d2d3:LVT d2d4:LV d2d5-d2ef:LVT d2f0:LV d2f1-d30b:LVT d30c:LV",
  "d30d-d327:LVT d328:LV d329-d343:LVT d344:LV d345-d35f:LVT d360:LV d361-d37b:LVT d37c:LV",
  "d37d-d397:LVT d398:LV d399-d3b3:LVT d3b4:LV d3b5-d3cf:LVT d3d0:LV d3d1-d3eb:LVT d3ec:LV",
  "d3ed-d407:LVT d408:LV d409-d423:LVT d424:LV d425-d43f:LVT d440:LV d441-d45b:LVT d45c:LV",
  "d45d-d477:LVT d478:LV d479-d493:LVT d494:LV d495-d4af:LVT d4b0:LV d4b1-d4cb:LVT d4cc:LV",
  "d4cd-d4e7:LVT d4e8:LV d4e9-d503:LVT d504:LV d505-d51f:LVT d520:LV d521-d53b:LVT d53c:LV",
  "d53d-d557:LVT d558:LV d559-d573:LVT d574:LV d575-d58f:LVT d590:LV d591-d5ab:LVT d5ac:LV",
  "d5ad-d5c7:LVT d5c8:LV d5c9-d5e3:LVT d5e4:LV d5e5-d5ff:LVT d600:LV d601-d61b:LVT d61c:LV",
  "d61d-d637:LVT d638:LV d639-d653:LVT d654:LV d655-d66f:LVT d670:LV d671-d68b:LVT d68c:LV",
  "d68d-d6a7:LVT d6a8:LV d6a9-d6c3:LVT d6c4:LV d6c5-d6df:LVT d6e0:LV d6e1-d6fb:LVT d6fc:LV",
  "d6fd-d717:LVT d718:LV d719-d733:LVT d734:LV d735-d74f:LVT d750:LV d751-d76b:LVT d76c:LV",
  "d76d-d787:LVT d788:LV d789-d7a3:LVT d7b0-d7c6:V d7cb-d7fb:T fb1e:Extend fe00-fe0f:Extend",
  "fe20-fe2f:Extend feff:Control ff9e-ff9f:Extend fff0-fffb:Control 101fd:Extend",
  "102e0:Extend 10376-1037a:Extend 10a01-10a03:Extend 10a05-10a06:Extend 10a0c-10a0f:Extend",
  "10a38-10a3a:Extend 10a3f:Extend 10ae5-10ae6:Extend 10d24-10d27:Extend 10d69-10d6d:Extend",
  "10eab-10eac:Extend 10efc-10eff:Extend 10f46-10f50:Extend 10f82-10f85:Extend",
  "11000:SpacingMark 11001:Extend 11002:SpacingMark 11038-11046:Extend 11070:Extend",
  "11073-11074:Extend 1107f-11081:Extend 11082:SpacingMark 110b0-110b2:SpacingMark",
  "110b3-110b6:Extend 110b7-110b8:SpacingMark 110b9-110ba:Extend 110bd:Prepend 110c2:Extend",
  "110cd:Prepend 11100-11102:Extend 11127-1112b:Extend 1112c:SpacingMark 1112d-11134:Extend",
  "11145-11146:SpacingMark 11173:Extend 11180-11181:Extend 11182:SpacingMark",
  "111b3-111b5:SpacingMark 111b6-111be:Extend 111bf:SpacingMark 111c0:Extend",
  "111c2-111c3:Prepend 111c9-111cc:Extend 111ce:SpacingMark 111cf:Extend",
  "1122c-1122e:SpacingMark 1122f-11231:Extend 11232-11233:SpacingMark 11234-11237:Extend",
  "1123e:Extend 11241:Extend 112df:Extend 112e0-112e2:SpacingMark 112e3-112ea:Extend",
  "11300-11301:Extend 11302-11303:SpacingMark 1133b-1133c:Extend 1133e:Extend",
  "1133f:SpacingMark 11340:Extend 11341-11344:SpacingMark 11347-11348:SpacingMark",
  "1134b-1134c:SpacingMark 1134d:Extend 11357:Extend 11362-11363:SpacingMark",
  "11366-1136c:Extend 11370-11374:Extend 113b8:Extend 113b9-113ba:SpacingMark",
  "113bb-113c0:Extend 113c2:Extend 113c5:Extend 113c7-113c9:Extend 113ca:SpacingMark",
  "113cc-113cd:SpacingMark 113ce-113d0:Extend 113d2:Extend 113e1-113e2:Extend",
  "11435-11437:SpacingMark 11438-1143f:Extend 11440-11441:SpacingMark 11442-11444:Extend",
  "11445:SpacingMark 11446:Extend 1145e:Extend 114b0:Extend 114b1-114b2:SpacingMark",
  "114b3-114b8:Extend 114b9:SpacingMark 114ba:Extend 114bb-114bc:SpacingMark 114bd:Extend",
  "114be:SpacingMark 114bf-114c0:Extend 114c1:SpacingMark 114c2-114c3:Extend 115af:Extend",
  "115b0-115b1:SpacingMark 115b2-115b5:Extend 115b8-115bb:SpacingMark 115bc-115bd:Extend",
  "115be:SpacingMark 115bf-115c0:Extend 115dc-115dd:Extend 11630-11632:SpacingMark",
  "11633-1163a:Extend 1163b-1163c:SpacingMark 1163d:Extend 1163e:SpacingMark",
  "1163f-11640:Extend 116ab:Extend 116ac:SpacingMark 116ad:Extend 116ae-116af:SpacingMark",
  "116b0-116b7:Extend 1171d-1171f:Extend 11722-11725:Extend 11726:SpacingMark",
  "11727-1172b:Extend 1182c-1182e:SpacingMark 1182f-11837:Extend 11838:SpacingMark",
  "11839-1183a:Extend 11930:Extend 11931-11935:SpacingMark 11937-11938:SpacingMark",
  "1193b-1193e:Extend 1193f:Prepend 11940:SpacingMark 11941:Prepend 11942:SpacingMark",
  "11943:Extend 119d1-119d3:SpacingMark 119d4-119d7:Extend 119da-119db:Extend",
  "119dc-119df:SpacingMark 119e0:Extend 119e4:SpacingMark 11a01-11a0a:Extend",
  "11a33-11a38:Extend 11a39:SpacingMark 11a3a:Prepend 11a3b-11a3e:Extend 11a47:Extend",
  "11a51-11a56:Extend 11a57-11a58:SpacingMark 11a59-11a5b:Extend 11a84-11a89:Prepend",
  "11a8a-11a96:Extend 11a97:SpacingMark 11a98-11a99:Extend 11c2f:SpacingMark",
  "11c30-11c36:Extend 11c38-11c3d:Extend 11c3e:SpacingMark 11c3f:Extend 11c92-11ca7:Extend",
  "11ca9:SpacingMark 11caa-11cb0:Extend 11cb1:SpacingMark 11cb2-11cb3:Extend",
  "11cb4:SpacingMark 11cb5-11cb6:Extend 11d31-11d36:Extend 11d3a:Extend 11d3c-11d3d:Extend",
  "11d3f-11d45:Extend 11d46:Prepend 11d47:Extend 11d8a-11d8e:SpacingMark 11d90-11d91:Extend",
  "11d93-11d94:SpacingMark 11d95:Extend 11d96:SpacingMark 11d97:Extend 11ef3-11ef4:Extend",
  "11ef5-11ef6:SpacingMark 11f00-11f01:Extend 11f02:Prepend 11f03:SpacingMark",
  "11f34-11f35:SpacingMark 11f36-11f3a:Extend 11f3e-11f3f:SpacingMark 11f40-11f42:Extend",
  "11f5a:Extend 13430-1343f:Control 13440:Extend 13447-13455:Extend 1611e-16129:Extend",
  "1612a-1612c:SpacingMark 1612d-1612f:Extend 16af0-16af4:Extend 16b30-16b36:Extend",
  "16f4f:Extend 16f51-16f87:SpacingMark 16f8f-16f92:Extend 16fe4:Extend 16ff0-16ff1:Extend",
  "1bc9d-1bc9e:Extend 1bca0-1bca3:Control 1cf00-1cf2d:Extend 1cf30-1cf46:Extend",
  "1d165-1d169:Extend 1d16d-1d172:Extend 1d173-1d17a:Control 1d17b-1d182:Extend",
  "1d185-1d18b:Extend 1d1aa-1d1ad:Extend 1d242-1d244:Extend 1da00-1da36:Extend",
  "1da3b-1da6c:Extend 1da75:Extend 1da84:Extend 1da9b-1da9f:Extend 1daa1-1daaf:Extend",
  "1e000-1e006:Extend 1e008-1e018:Extend 1e01b-1e021:Extend 1e023-1e024:Extend",
  "1e026-1e02a:Extend 1e08f:Extend 1e130-1e136:Extend 1e2ae:Extend 1e2ec-1e2ef:Extend",
  "1e4ec-1e4ef:Extend 1e5ee-1e5ef:Extend 1e8d0-1e8d6:Extend 1e944-1e94a:Extend",
  "1f1e6-1f1ff:Regional_Indicator 1f3fb-1f3ff:Extend e0000-e001f:Control e0020-e007f:Extend",
  "e0080-e00ff:Control e0100-e01ef:Extend e01f0-e0fff:Control"]

/-- The Word_Break value of every code point that has one other than Other, as runs. -/
def wordBreakRuns : List String := [
  "a:LF b-c:Newline d:CR 20:WSegSpace 22:Double_Quote 27:Single_Quote 2c:MidNum",
  "2e:MidNumLet 30-39:Numeric 3a:MidLetter 3b:MidNum 41-5a:ALetter 5f:ExtendNumLet",
  "61-7a:ALetter 85:Newline aa:ALetter ad:Format b5:ALetter b7:MidLetter ba:ALetter",
  "c0-d6:ALetter d8-f6:ALetter f8-2d7:ALetter 2de-2ff:ALetter 300-36f:Extend",
  "370-374:ALetter 376-377:ALetter 37a-37d:ALetter 37e:MidNum 37f:ALetter 386:ALetter",
  "387:MidLetter 388-38a:ALetter 38c:ALetter 38e-3a1:ALetter 3a3-3f5:ALetter",
  "3f7-481:ALetter 483-489:Extend 48a-52f:ALetter 531-556:ALetter 559-55c:ALetter",
  "55e:ALetter 55f:MidLetter 560-588:ALetter 589:MidNum 58a:ALetter 591-5bd:Extend",
  "5bf:Extend 5c1-5c2:Extend 5c4-5c5:Extend 5c7:Extend 5d0-5ea:Hebrew_Letter",
  "5ef-5f2:Hebrew_Letter 5f3:ALetter 5f4:MidLetter 600-605:Format 60c-60d:MidNum",
  "610-61a:Extend 61c:Format 620-64a:ALetter 64b-65f:Extend 660-669:Numeric 66b:Numeric",
  "66c:MidNum 66e-66f:ALetter 670:Extend 671-6d3:ALetter 6d5:ALetter 6d6-6dc:Extend",
  "6dd:Format 6df-6e4:Extend 6e5-6e6:ALetter 6e7-6e8:Extend 6ea-6ed:Extend 6ee-6ef:ALetter",
  "6f0-6f9:Numeric 6fa-6fc:ALetter 6ff:ALetter 70f:Format 710:ALetter 711:Extend",
  "712-72f:ALetter 730-74a:Extend 74d-7a5:ALetter 7a6-7b0:Extend 7b1:ALetter",
  "7c0-7c9:Numeric 7ca-7ea:ALetter 7eb-7f3:Extend 7f4-7f5:ALetter 7f8:MidNum 7fa:ALetter",
  "7fd:Extend 800-815:ALetter 816-819:Extend 81a:ALetter 81b-823:Extend 824:ALetter",
  "825-827:Extend 828:ALetter 829-82d:Extend 840-858:ALetter 859-85b:Extend 860-86a:ALetter",
  "870-887:ALetter 889-88e:ALetter 890-891:Format 897-89f:Extend 8a0-8c9:ALetter",
  "8ca-8e1:Extend 8e2:Format 8e3-903:Extend 904-939:ALetter 93a-93c:Extend 93d:ALetter",
  "93e-94f:Extend 950:ALetter 951-957:Extend 958-961:ALetter 962-963:Extend 966-96f:Numeric",
  "971-980:ALetter 981-983:Extend 985-98c:ALetter 98f-990:ALetter 993-9a8:ALetter",
  "9aa-9b0:ALetter 9b2:ALetter 9b6-9b9:ALetter 9bc:Extend 9bd:ALetter 9be-9c4:Extend",
  "9c7-9c8:Extend 9cb-9cd:Extend 9ce:ALetter 9d7:Extend 9dc-9dd:ALetter 9df-9e1:ALetter",
  "9e2-9e3:Extend 9e6-9ef:Numeric 9f0-9f1:ALetter 9fc:ALetter 9fe:Extend a01-a03:Extend",
  "a05-a0a:ALetter a0f-a10:ALetter a13-a28:ALetter a2a-a30:ALetter a32-a33:ALetter",
  "a35-a36:ALetter a38-a39:ALetter a3c:Extend a3e-a42:Extend a47-a48:Extend a4b-a4d:Extend",
  "a51:Extend a59-a5c:ALetter a5e:ALetter a66-a6f:Numeric a70-a71:Extend a72-a74:ALetter",
  "a75:Extend a81-a83:Extend a85-a8d:ALetter a8f-a91:ALetter a93-aa8:ALetter",
  "aaa-ab0:ALetter ab2-ab3:ALetter ab5-ab9:ALetter abc:Extend abd:ALetter abe-ac5:Extend",
  "ac7-ac9:Extend acb-acd:Extend ad0:ALetter ae0-ae1:ALetter ae2-ae3:Extend ae6-aef:Numeric",
  "af9:ALetter afa-aff:Extend b01-b03:Extend b05-b0c:ALetter b0f-b10:ALetter",
  "b13-b28:ALetter b2a-b30:ALetter b32-b33:ALetter b35-b39:ALetter b3c:Extend b3d:ALetter",
  "b3e-b44:Extend b47-b48:Extend b4b-b4d:Extend b55-b57:Extend b5c-b5d:ALetter",
  "b5f-b61:ALetter b62-b63:Extend b66-b6f:Numeric b71:ALetter b82:Extend b83:ALetter",
  "b85-b8a:ALetter b8e-b90:ALetter b92-b95:ALetter b99-b9a:ALetter b9c:ALetter",
  "b9e-b9f:ALetter ba3-ba4:ALetter ba8-baa:ALetter bae-bb9:ALetter bbe-bc2:Extend",
  "bc6-bc8:Extend bca-bcd:Extend bd0:ALetter bd7:Extend be6-bef:Numeric c00-c04:Extend",
  "c05-c0c:ALetter c0e-c10:ALetter c12-c28:ALetter c2a-c39:ALetter c3c:Extend c3d:ALetter",
  "c3e-c44:Extend c46-c48:Extend c4a-c4d:Extend c55-c56:Extend c58-c5a:ALetter c5d:ALetter",
  "c60-c61:ALetter c62-c63:Extend c66-c6f:Numeric c80:ALetter c81-c83:Extend",
  "c85-c8c:ALetter c8e-c90:ALetter c92-ca8:ALetter caa-cb3:ALetter cb5-cb9:ALetter",
  "cbc:Extend cbd:ALetter cbe-cc4:Extend cc6-cc8:Extend cca-ccd:Extend cd5-cd6:Extend",
  "cdd-cde:ALetter ce0-ce1:ALetter ce2-ce3:Extend ce6-cef:Numeric cf1-cf2:ALetter",
  "cf3:Extend d00-d03:Extend d04-d0c:ALetter d0e-d10:ALetter d12-d3a:ALetter d3b-d3c:Extend",
  "d3d:ALetter d3e-d44:Extend d46-d48:Extend d4a-d4d:Extend d4e:ALetter d54-d56:ALetter",
  "d57:Extend d5f-d61:ALetter d62-d63:Extend d66-d6f:Numeric d7a-d7f:ALetter d81-d83:Extend",
  "d85-d96:ALetter d9a-db1:ALetter db3-dbb:ALetter dbd:ALetter dc0-dc6:ALetter dca:Extend",
  "dcf-dd4:Extend dd6:Extend dd8-ddf:Extend de6-def:Numeric df2-df3:Extend e31:Extend",
  "e34-e3a:Extend e47-e4e:Extend e50-e59:Numeric eb1:Extend eb4-ebc:Extend ec8-ece:Extend",
  "ed0-ed9:Numeric f00:ALetter f18-f19:Extend f20-f29:Numeric f35:Extend f37:Extend",
  "f39:Extend f3e-f3f:Extend f40-f47:ALetter f49-f6c:ALetter f71-f84:Extend f86-f87:Extend",
  "f88-f8c:ALetter f8d-f97:Extend f99-fbc:Extend fc6:Extend 102b-103e:Extend",
  "1040-1049:Numeric 1056-1059:Extend 105e-1060:Extend 1062-1064:Extend 1067-106d:Extend",
  "1071-1074:Extend 1082-108d:Extend 108f:Extend 1090-1099:Numeric 109a-109d:Extend",
  "10a0-10c5:ALetter 10c7:ALetter 10cd:ALetter 10d0-10fa:ALetter 10fc-1248:ALetter",
  "124a-124d:ALetter 1250-1256:ALetter 1258:ALetter 125a-125d:ALetter 1260-1288:ALetter",
  "128a-128d:ALetter 1290-12b0:ALetter 12b2-12b5:ALetter 12b8-12be:ALetter 12c0:ALetter",
  "12c2-12c5:ALetter 12c8-12d6:ALetter 12d8-1310:ALetter 1312-1315:ALetter",
  "1318-135a:ALetter 135d-135f:Extend 1380-138f:ALetter 13a0-13f5:ALetter 13f8-13fd:ALetter",
  "1401-166c:ALetter 166f-167f:ALetter 1680:WSegSpace 1681-169a:ALetter 16a0-16ea:ALetter",
  "16ee-16f8:ALetter 1700-1711:ALetter 1712-1715:Extend 171f-1731:ALetter 1732-1734:Extend",
  "1740-1751:ALetter 1752-1753:Extend 1760-176c:ALetter 176e-1770:ALetter 1772-1773:Extend",
  "17b4-17d3:Extend 17dd:Extend 17e0-17e9:Numeric 180b-180d:Extend 180e:Format 180f:Extend",
  "1810-1819:Numeric 1820-1878:ALetter 1880-1884:ALetter 1885-1886:Extend 1887-18a8:ALetter",
  "18a9:Extend 18aa:ALetter 18b0-18f5:ALetter 1900-191e:ALetter 1920-192b:Extend",
  "1930-193b:Extend 1946-194f:Numeric 19d0-19d9:Numeric 1a00-1a16:ALetter 1a17-1a1b:Extend",
  "1a55-1a5e:Extend 1a60-1a7c:Extend 1a7f:Extend 1a80-1a89:Numeric 1a90-1a99:Numeric",
  "1ab0-1ace:Extend 1b00-1b04:Extend 1b05-1b33:ALetter 1b34-1b44:Extend 1b45-1b4c:ALetter",
  "1b50-1b59:Numeric 1b6b-1b73:Extend 1b80-1b82:Extend 1b83-1ba0:ALetter 1ba1-1bad:Extend",
  "1bae-1baf:ALetter 1bb0-1bb9:Numeric 1bba-1be5:ALetter 1be6-1bf3:Extend 1c00-1c23:ALetter",
  "1c24-1c37:Extend 1c40-1c49:Numeric 1c4d-1c4f:ALetter 1c50-1c59:Numeric 1c5a-1c7d:ALetter",
  "1c80-1c8a:ALetter 1c90-1cba:ALetter 1cbd-1cbf:ALetter 1cd0-1cd2:Extend 1cd4-1ce8:Extend",
  "1ce9-1cec:ALetter 1ced:Extend 1cee-1cf3:ALetter 1cf4:Extend 1cf5-1cf6:ALetter",
  "1cf7-1cf9:Extend 1cfa:ALetter 1d00-1dbf:ALetter 1dc0-1dff:Extend 1e00-1f15:ALetter",
  "1f18-1f1d:ALetter 1f20-1f45:ALetter 1f48-1f4d:ALetter 1f50-1f57:ALetter 1f59:ALetter",
  "1f5b:ALetter 1f5d:ALetter 1f5f-1f7d:ALetter 1f80-1fb4:ALetter 1fb6-1fbc:ALetter",
  "1fbe:ALetter 1fc2-1fc4:ALetter 1fc6-1fcc:ALetter 1fd0-1fd3:ALetter 1fd6-1fdb:ALetter",
  "1fe0-1fec:ALetter 1ff2-1ff4:ALetter 1ff6-1ffc:ALetter 2000-2006:WSegSpace",
  "2008-200a:WSegSpace 200c:Extend 200d:ZWJ 200e-200f:Format 2018-2019:MidNumLet",
  "2024:MidNumLet 2027:MidLetter 2028-2029:Newline 202a-202e:Format 202f:ExtendNumLet",
  "203f-2040:ExtendNumLet 2044:MidNum 2054:ExtendNumLet 205f:WSegSpace 2060-2064:Format",
  "2066-206f:Format 2071:ALetter 207f:ALetter 2090-209c:ALetter 20d0-20f0:Extend",
  "2102:ALetter 2107:ALetter 210a-2113:ALetter 2115:ALetter 2119-211d:ALetter 2124:ALetter",
  "2126:ALetter 2128:ALetter 212a-212d:ALetter 212f-2139:ALetter 213c-213f:ALetter",
  "2145-2149:ALetter 214e:ALetter 2160-2188:ALetter 24b6-24e9:ALetter 2c00-2ce4:ALetter",
  "2ceb-2cee:ALetter 2cef-2cf1:Extend 2cf2-2cf3:ALetter 2d00-2d25:ALetter 2d27:ALetter",
  "2d2d:ALetter 2d30-2d67:ALetter 2d6f:ALetter 2d7f:Extend 2d80-2d96:ALetter",
  "2da0-2da6:ALetter 2da8-2dae:ALetter 2db0-2db6:ALetter 2db8-2dbe:ALetter",
  "2dc0-2dc6:ALetter 2dc8-2dce:ALetter 2dd0-2dd6:ALetter 2dd8-2dde:ALetter 2de0-2dff:Extend",
  "2e2f:ALetter 3000:WSegSpace 3005:ALetter 302a-302f:Extend 3031-3035:Katakana",
  "303b-303c:ALetter 3099-309a:Extend 309b-309c:Katakana 30a0-30fa:Katakana",
  "30fc-30ff:Katakana 3105-312f:ALetter 3131-318e:ALetter 31a0-31bf:ALetter",
  "31f0-31ff:Katakana 32d0-32fe:Katakana 3300-3357:Katakana a000-a48c:ALetter",
  "a4d0-a4fd:ALetter a500-a60c:ALetter a610-a61f:ALetter a620-a629:Numeric",
  "a62a-a62b:ALetter a640-a66e:ALetter a66f-a672:Extend a674-a67d:Extend a67f-a69d:ALetter",
  "a69e-a69f:Extend a6a0-a6ef:ALetter a6f0-a6f1:Extend a708-a7cd:ALetter a7d0-a7d1:ALetter",
  "a7d3:ALetter a7d5-a7dc:ALetter a7f2-a801:ALetter a802:Extend a803-a805:ALetter",
  "a806:Extend a807-a80a:ALetter a80b:Extend a80c-a822:ALetter a823-a827:Extend a82c:Extend",
  "a840-a873:ALetter a880-a881:Extend a882-a8b3:ALetter a8b4-a8c5:Extend a8d0-a8d9:Numeric",
  "a8e0-a8f1:Extend a8f2-a8f7:ALetter a8fb:ALetter a8fd-a8fe:ALetter a8ff:Extend",
  "a900-a909:Numeric a90a-a925:ALetter a926-a92d:Extend a930-a946:ALetter a947-a953:Extend",
  "a960-a97c:ALetter a980-a983:Extend a984-a9b2:ALetter a9b3-a9c0:Extend a9cf:ALetter",
  "a9d0-a9d9:Numeric a9e5:Extend a9f0-a9f9:Numeric aa00-aa28:ALetter aa29-aa36:Extend",
  "aa40-aa42:ALetter aa43:Extend aa44-aa4b:ALetter aa4c-aa4d:Extend aa50-aa59:Numeric",
  "aa7b-aa7d:Extend aab0:Extend aab2-aab4:Extend aab7-aab8:Extend aabe-aabf:Extend",
  "aac1:Extend aae0-aaea:ALetter aaeb-aaef:Extend aaf2-aaf4:ALetter aaf5-aaf6:Extend",
  "ab01-ab06:ALetter ab09-ab0e:ALetter ab11-ab16:ALetter ab20-ab26:ALetter",
  "ab28-ab2e:ALetter ab30-ab69:ALetter ab70-abe2:ALetter abe3-abea:Extend abec-abed:Extend",
  "abf0-abf9:Numeric ac00-d7a3:ALetter d7b0-d7c6:ALetter d7cb-d7fb:ALetter",
  "fb00-fb06:ALetter fb13-fb17:ALetter fb1d:Hebrew_Letter fb1e:Extend",
  "fb1f-fb28:Hebrew_Letter fb2a-fb36:Hebrew_Letter fb38-fb3c:Hebrew_Letter",
  "fb3e:Hebrew_Letter fb40-fb41:Hebrew_Letter fb43-fb44:Hebrew_Letter",
  "fb46-fb4f:Hebrew_Letter fb50-fbb1:ALetter fbd3-fd3d:ALetter fd50-fd8f:ALetter",
  "fd92-fdc7:ALetter fdf0-fdfb:ALetter fe00-fe0f:Extend fe10:MidNum fe13:MidLetter",
  "fe14:MidNum fe20-fe2f:Extend fe33-fe34:ExtendNumLet fe4d-fe4f:ExtendNumLet fe50:MidNum",
  "fe52:MidNumLet fe54:MidNum fe55:MidLetter fe70-fe74:ALetter fe76-fefc:ALetter",
  "feff:Format ff07:MidNumLet ff0c:MidNum ff0e:MidNumLet ff10-ff19:Numeric ff1a:MidLetter",
  "ff1b:MidNum ff21-ff3a:ALetter ff3f:ExtendNumLet ff41-ff5a:ALetter ff66-ff9d:Katakana",
  "ff9e-ff9f:Extend ffa0-ffbe:ALetter ffc2-ffc7:ALetter ffca-ffcf:ALetter ffd2-ffd7:ALetter",
  "ffda-ffdc:ALetter fff9-fffb:Format 10000-1000b:ALetter 1000d-10026:ALetter",
  "10028-1003a:ALetter 1003c-1003d:ALetter 1003f-1004d:ALetter 10050-1005d:ALetter",
  "10080-100fa:ALetter 10140-10174:ALetter 101fd:Extend 10280-1029c:ALetter",
  "102a0-102d0:ALetter 102e0:Extend 10300-1031f:ALetter 1032d-1034a:ALetter",
  "10350-10375:ALetter 10376-1037a:Extend 10380-1039d:ALetter 103a0-103c3:ALetter",
  "103c8-103cf:ALetter 103d1-103d5:ALetter 10400-1049d:ALetter 104a0-104a9:Numeric",
  "104b0-104d3:ALetter 104d8-104fb:ALetter 10500-10527:ALetter 10530-10563:ALetter",
  "10570-1057a:ALetter 1057c-1058a:ALetter 1058c-10592:ALetter 10594-10595:ALetter",
  "10597-105a1:ALetter 105a3-105b1:ALetter 105b3-105b9:ALetter 105bb-105bc:ALetter",
  "105c0-105f3:ALetter 10600-10736:ALetter 10740-10755:ALetter 10760-10767:ALetter",
  "10780-10785:ALetter 10787-107b0:ALetter 107b2-107ba:ALetter 10800-10805:ALetter",
  "10808:ALetter 1080a-10835:ALetter 10837-10838:ALetter 1083c:ALetter 1083f-10855:ALetter",
  "10860-10876:ALetter 10880-1089e:ALetter 108e0-108f2:ALetter 108f4-108f5:ALetter",
  "10900-10915:ALetter 10920-10939:ALetter 10980-109b7:ALetter 109be-109bf:ALetter",
  "10a00:ALetter 10a01-10a03:Extend 10a05-10a06:Extend 10a0c-10a0f:Extend",
  "10a10-10a13:ALetter 10a15-10a17:ALetter 10a19-10a35:ALetter 10a38-10a3a:Extend",
  "10a3f:Extend 10a60-10a7c:ALetter 10a80-10a9c:ALetter 10ac0-10ac7:ALetter",
  "10ac9-10ae4:ALetter 10ae5-10ae6:Extend 10b00-10b35:ALetter 10b40-10b55:ALetter",
  "10b60-10b72:ALetter 10b80-10b91:ALetter 10c00-10c48:ALetter 10c80-10cb2:ALetter",
  "10cc0-10cf2:ALetter 10d00-10d23:ALetter 10d24-10d27:Extend 10d30-10d39:Numeric",
  "10d40-10d49:Numeric 10d4a-10d65:ALetter 10d69-10d6d:Extend 10d6f-10d85:ALetter",
  "10e80-10ea9:ALetter 10eab-10eac:Extend 10eb0-10eb1:ALetter 10ec2-10ec4:ALetter",
  "10efc-10eff:Extend 10f00-10f1c:ALetter 10f27:ALetter 10f30-10f45:ALetter",
  "10f46-10f50:Extend 10f70-10f81:ALetter 10f82-10f85:Extend 10fb0-10fc4:ALetter",
  "10fe0-10ff6:ALetter 11000-11002:Extend 11003-11037:ALetter 11038-11046:Extend",
  "11066-1106f:Numeric 11070:Extend 11071-11072:ALetter 11073-11074:Extend 11075:ALetter",
  "1107f-11082:Extend 11083-110af:ALetter 110b0-110ba:Extend 110bd:Format 110c2:Extend",
  "110cd:Format 110d0-110e8:ALetter 110f0-110f9:Numeric 11100-11102:Extend",
  "11103-11126:ALetter 11127-11134:Extend 11136-1113f:Numeric 11144:ALetter",
  "11145-11146:Extend 11147:ALetter 11150-11172:ALetter 11173:Extend 11176:ALetter",
  "11180-11182:Extend 11183-111b2:ALetter 111b3-111c0:Extend 111c1-111c4:ALetter",
  "111c9-111cc:Extend 111ce-111cf:Extend 111d0-111d9:Numeric 111da:ALetter 111dc:ALetter",
  "11200-11211:ALetter 11213-1122b:ALetter 1122c-11237:Extend 1123e:Extend",
  "1123f-11240:ALetter 11241:Extend 11280-11286:ALetter 11288:ALetter 1128a-1128d:ALetter",
  "1128f-1129d:ALetter 1129f-112a8:ALetter 112b0-112de:ALetter 112df-112ea:Extend",
  "112f0-112f9:Numeric 11300-11303:Extend 11305-1130c:ALetter 1130f-11310:ALetter",
  "11313-11328:ALetter 1132a-11330:ALetter 11332-11333:ALetter 11335-11339:ALetter",
  "1133b-1133c:Extend 1133d:ALetter 1133e-11344:Extend 11347-11348:Extend",
  "1134b-1134d:Extend 11350:ALetter 11357:Extend 1135d-11361:ALetter 11362-11363:Extend",
  "11366-1136c:Extend 11370-11374:Extend 11380-11389:ALetter 1138b:ALetter 1138e:ALetter",
  "11390-113b5:ALetter 113b7:ALetter 113b8-113c0:Extend 113c2:Extend 113c5:Extend",
  "113c7-113ca:Extend 113cc-113d0:Extend 113d1:ALetter 113d2:Extend 113d3:ALetter",
  "113e1-113e2:Extend 11400-11434:ALetter 11435-11446:Extend 11447-1144a:ALetter",
  "11450-11459:Numeric 1145e:Extend 1145f-11461:ALetter 11480-114af:ALetter",
  "114b0-114c3:Extend 114c4-114c5:ALetter 114c7:ALetter 114d0-114d9:Numeric",
  "11580-115ae:ALetter 115af-115b5:Extend 115b8-115c0:Extend 115d8-115db:ALetter",
  "115dc-115dd:Extend 11600-1162f:ALetter 11630-11640:Extend 11644:ALetter",
  "11650-11659:Numeric 11680-116aa:ALetter 116ab-116b7:Extend 116b8:ALetter",
  "116c0-116c9:Numeric 116d0-116e3:Numeric 1171d-1172b:Extend 11730-11739:Numeric",
  "11800-1182b:ALetter 1182c-1183a:Extend 118a0-118df:ALetter 118e0-118e9:Numeric",
  "118ff-11906:ALetter 11909:ALetter 1190c-11913:ALetter 11915-11916:ALetter",
  "11918-1192f:ALetter 11930-11935:Extend 11937-11938:Extend 1193b-1193e:Extend",
  "1193f:ALetter 11940:Extend 11941:ALetter 11942-11943:Extend 11950-11959:Numeric",
  "119a0-119a7:ALetter 119aa-119d0:ALetter 119d1-119d7:Extend 119da-119e0:Extend",
  "119e1:ALetter 119e3:ALetter 119e4:Extend 11a00:ALetter 11a01-11a0a:Extend",
  "11a0b-11a32:ALetter 11a33-11a39:Extend 11a3a:ALetter 11a3b-11a3e:Extend 11a47:Extend",
  "11a50:ALetter 11a51-11a5b:Extend 11a5c-11a89:ALetter 11a8a-11a99:Extend 11a9d:ALetter",
  "11ab0-11af8:ALetter 11bc0-11be0:ALetter 11bf0-11bf9:Numeric 11c00-11c08:ALetter",
  "11c0a-11c2e:ALetter 11c2f-11c36:Extend 11c38-11c3f:Extend 11c40:ALetter",
  "11c50-11c59:Numeric 11c72-11c8f:ALetter 11c92-11ca7:Extend 11ca9-11cb6:Extend",
  "11d00-11d06:ALetter 11d08-11d09:ALetter 11d0b-11d30:ALetter 11d31-11d36:Extend",
  "11d3a:Extend 11d3c-11d3d:Extend 11d3f-11d45:Extend 11d46:ALetter 11d47:Extend",
  "11d50-11d59:Numeric 11d60-11d65:ALetter 11d67-11d68:ALetter 11d6a-11d89:ALetter",
  "11d8a-11d8e:Extend 11d90-11d91:Extend 11d93-11d97:Extend 11d98:ALetter",
  "11da0-11da9:Numeric 11ee0-11ef2:ALetter 11ef3-11ef6:Extend 11f00-11f01:Extend",
  "11f02:ALetter 11f03:Extend 11f04-11f10:ALetter 11f12-11f33:ALetter 11f34-11f3a:Extend",
  "11f3e-11f42:Extend 11f50-11f59:Numeric 11f5a:Extend 11fb0:ALetter 12000-12399:ALetter",
  "12400-1246e:ALetter 12480-12543:ALetter 12f90-12ff0:ALetter 13000-1342f:ALetter",
  "13430-1343f:Format 13440:Extend 13441-13446:ALetter 13447-13455:Extend",
  "13460-143fa:ALetter 14400-14646:ALetter 16100-1611d:ALetter 1611e-1612f:Extend",
  "16130-16139:Numeric 16800-16a38:ALetter 16a40-16a5e:ALetter 16a60-16a69:Numeric",
  "16a70-16abe:ALetter 16ac0-16ac9:Numeric 16ad0-16aed:ALetter 16af0-16af4:Extend",
  "16b00-16b2f:ALetter 16b30-16b36:Extend 16b40-16b43:ALetter 16b50-16b59:Numeric",
  "16b63-16b77:ALetter 16b7d-16b8f:ALetter 16d40-16d6c:ALetter 16d70-16d79:Numeric",
  "16e40-16e7f:ALetter 16f00-16f4a:ALetter 16f4f:Extend 16f50:ALetter 16f51-16f87:Extend",
  "16f8f-16f92:Extend 16f93-16f9f:ALetter 16fe0-16fe1:ALetter 16fe3:ALetter 16fe4:Extend",
  "16ff0-16ff1:Extend 18cff:ALetter 1aff0-1aff3:Katakana 1aff5-1affb:Katakana",
  "1affd-1affe:Katakana 1b000:Katakana 1b120-1b122:Katakana 1b155:Katakana",
  "1b164-1b167:Katakana 1bc00-1bc6a:ALetter 1bc70-1bc7c:ALetter 1bc80-1bc88:ALetter",
  "1bc90-1bc99:ALetter 1bc9d-1bc9e:Extend 1bca0-1bca3:Format 1ccf0-1ccf9:Numeric",
  "1cf00-1cf2d:Extend 1cf30-1cf46:Extend 1d165-1d169:Extend 1d16d-1d172:Extend",
  "1d173-1d17a:Format 1d17b-1d182:Extend 1d185-1d18b:Extend 1d1aa-1d1ad:Extend",
  "1d242-1d244:Extend 1d400-1d454:ALetter 1d456-1d49c:ALetter 1d49e-1d49f:ALetter",
  "1d4a2:ALetter 1d4a5-1d4a6:ALetter 1d4a9-1d4ac:ALetter 1d4ae-1d4b9:ALetter 1d4bb:ALetter",
  "1d4bd-1d4c3:ALetter 1d4c5-1d505:ALetter 1d507-1d50a:ALetter 1d50d-1d514:ALetter",
  "1d516-1d51c:ALetter 1d51e-1d539:ALetter 1d53b-1d53e:ALetter 1d540-1d544:ALetter",
  "1d546:ALetter 1d54a-1d550:ALetter 1d552-1d6a5:ALetter 1d6a8-1d6c0:ALetter",
  "1d6c2-1d6da:ALetter 1d6dc-1d6fa:ALetter 1d6fc-1d714:ALetter 1d716-1d734:ALetter",
  "1d736-1d74e:ALetter 1d750-1d76e:ALetter 1d770-1d788:ALetter 1d78a-1d7a8:ALetter",
  "1d7aa-1d7c2:ALetter 1d7c4-1d7cb:ALetter 1d7ce-1d7ff:Numeric 1da00-1da36:Extend",
  "1da3b-1da6c:Extend 1da75:Extend 1da84:Extend 1da9b-1da9f:Extend 1daa1-1daaf:Extend",
  "1df00-1df1e:ALetter 1df25-1df2a:ALetter 1e000-1e006:Extend 1e008-1e018:Extend",
  "1e01b-1e021:Extend 1e023-1e024:Extend 1e026-1e02a:Extend 1e030-1e06d:ALetter",
  "1e08f:Extend 1e100-1e12c:ALetter 1e130-1e136:Extend 1e137-1e13d:ALetter",
  "1e140-1e149:Numeric 1e14e:ALetter 1e290-1e2ad:ALetter 1e2ae:Extend 1e2c0-1e2eb:ALetter",
  "1e2ec-1e2ef:Extend 1e2f0-1e2f9:Numeric 1e4d0-1e4eb:ALetter 1e4ec-1e4ef:Extend",
  "1e4f0-1e4f9:Numeric 1e5d0-1e5ed:ALetter 1e5ee-1e5ef:Extend 1e5f0:ALetter",
  "1e5f1-1e5fa:Numeric 1e7e0-1e7e6:ALetter 1e7e8-1e7eb:ALetter 1e7ed-1e7ee:ALetter",
  "1e7f0-1e7fe:ALetter 1e800-1e8c4:ALetter 1e8d0-1e8d6:Extend 1e900-1e943:ALetter",
  "1e944-1e94a:Extend 1e94b:ALetter 1e950-1e959:Numeric 1ee00-1ee03:ALetter",
  "1ee05-1ee1f:ALetter 1ee21-1ee22:ALetter 1ee24:ALetter 1ee27:ALetter 1ee29-1ee32:ALetter",
  "1ee34-1ee37:ALetter 1ee39:ALetter 1ee3b:ALetter 1ee42:ALetter 1ee47:ALetter",
  "1ee49:ALetter 1ee4b:ALetter 1ee4d-1ee4f:ALetter 1ee51-1ee52:ALetter 1ee54:ALetter",
  "1ee57:ALetter 1ee59:ALetter 1ee5b:ALetter 1ee5d:ALetter 1ee5f:ALetter",
  "1ee61-1ee62:ALetter 1ee64:ALetter 1ee67-1ee6a:ALetter 1ee6c-1ee72:ALetter",
  "1ee74-1ee77:ALetter 1ee79-1ee7c:ALetter 1ee7e:ALetter 1ee80-1ee89:ALetter",
  "1ee8b-1ee9b:ALetter 1eea1-1eea3:ALetter 1eea5-1eea9:ALetter 1eeab-1eebb:ALetter",
  "1f130-1f149:ALetter 1f150-1f169:ALetter 1f170-1f189:ALetter",
  "1f1e6-1f1ff:Regional_Indicator 1f3fb-1f3ff:Extend 1fbf0-1fbf9:Numeric",
  "2ebf0-2ee5d:ALetter e0001:Format e0020-e007f:Extend e0100-e01ef:Extend"]

/-- The Sentence_Break value of every code point that has one other than Other, as runs. -/
def sentenceBreakRuns : List String := [
  "9:Sp a:LF b-c:Sp d:CR 20:Sp 21:STerm 22:Close 27-29:Close 2c-2d:SContinue 2e:ATerm",
  "30-39:Numeric 3a:SContinue 3f:STerm 41-5a:Upper 5b:Close 5d:Close 61-7a:Lower 7b:Close",
  "7d:Close 85:Sep a0:Sp aa:Lower ab:Close ad:Format b5:Lower ba:Lower bb:Close c0-d6:Upper",
  "d8-de:Upper df-f6:Lower f8-ff:Lower 100:Upper 101:Lower 102:Upper 103:Lower 104:Upper",
  "105:Lower 106:Upper 107:Lower 108:Upper 109:Lower 10a:Upper 10b:Lower 10c:Upper",
  "10d:Lower 10e:Upper 10f:Lower 110:Upper 111:Lower 112:Upper 113:Lower 114:Upper",
  "115:Lower 116:Upper 117:Lower 118:Upper 119:Lower 11a:Upper 11b:Lower 11c:Upper",
  "11d:Lower 11e:Upper 11f:Lower 120:Upper 121:Lower 122:Upper 123:Lower 124:Upper",
  "125:Lower 126:Upper 127:Lower 128:Upper 129:Lower 12a:Upper 12b:Lower 12c:Upper",
  "12d:Lower 12e:Upper 12f:Lower 130:Upper 131:Lower 132:Upper 133:Lower 134:Upper",
  "135:Lower 136:Upper 137-138:Lower 139:Upper 13a:Lower 13b:Upper 13c:Lower 13d:Upper",
  "13e:Lower 13f:Upper 140:Lower 141:Upper 142:Lower 143:Upper 144:Lower 145:Upper",
  "146:Lower 147:Upper 148-149:Lower 14a:Upper 14b:Lower 14c:Upper 14d:Lower 14e:Upper",
  "14f:Lower 150:Upper 151:Lower 152:Upper 153:Lower 154:Upper 155:Lower 156:Upper",
  "157:Lower 158:Upper 159:Lower 15a:Upper 15b:Lower 15c:Upper 15d:Lower 15e:Upper",
  "15f:Lower 160:Upper 161:Lower 162:Upper 163:Lower 164:Upper 165:Lower 166:Upper",
  "167:Lower 168:Upper 169:Lower 16a:Upper 16b:Lower 16c:Upper 16d:Lower 16e:Upper",
  "16f:Lower 170:Upper 171:Lower 172:Upper 173:Lower 174:Upper 175:Lower 176:Upper",
  "177:Lower 178-179:Upper 17a:Lower 17b:Upper 17c:Lower 17d:Upper 17e-180:Lower",
  "181-182:Upper 183:Lower 184:Upper 185:Lower 186-187:Upper 188:Lower 189-18b:Upper",
  "18c-18d:Lower 18e-191:Upper 192:Lower 193-194:Upper 195:Lower 196-198:Upper",
  "199-19b:Lower 19c-19d:Upper 19e:Lower 19f-1a0:Upper 1a1:Lower 1a2:Upper 1a3:Lower",
  "1a4:Upper 1a5:Lower 1a6-1a7:Upper 1a8:Lower 1a9:Upper 1aa-1ab:Lower 1ac:Upper 1ad:Lower",
  "1ae-1af:Upper 1b0:Lower 1b1-1b3:Upper 1b4:Lower 1b5:Upper 1b6:Lower 1b7-1b8:Upper",
  "1b9-1ba:Lower 1bb:OLetter 1bc:Upper 1bd-1bf:Lower 1c0-1c3:OLetter 1c4-1c5:Upper",
  "1c6:Lower 1c7-1c8:Upper 1c9:Lower 1ca-1cb:Upper 1cc:Lower 1cd:Upper 1ce:Lower 1cf:Upper",
  "1d0:Lower 1d1:Upper 1d2:Lower 1d3:Upper 1d4:Lower 1d5:Upper 1d6:Lower 1d7:Upper",
  "1d8:Lower 1d9:Upper 1da:Lower 1db:Upper 1dc-1dd:Lower 1de:Upper 1df:Lower 1e0:Upper",
  "1e1:Lower 1e2:Upper 1e3:Lower 1e4:Upper 1e5:Lower 1e6:Upper 1e7:Lower 1e8:Upper",
  "1e9:Lower 1ea:Upper 1eb:Lower 1ec:Upper 1ed:Lower 1ee:Upper 1ef-1f0:Lower 1f1-1f2:Upper",
  "1f3:Lower 1f4:Upper 1f5:Lower 1f6-1f8:Upper 1f9:Lower 1fa:Upper 1fb:Lower 1fc:Upper",
  "1fd:Lower 1fe:Upper 1ff:Lower 200:Upper 201:Lower 202:Upper 203:Lower 204:Upper",
  "205:Lower 206:Upper 207:Lower 208:Upper 209:Lower 20a:Upper 20b:Lower 20c:Upper",
  "20d:Lower 20e:Upper 20f:Lower 210:Upper 211:Lower 212:Upper 213:Lower 214:Upper",
  "215:Lower 216:Upper 217:Lower 218:Upper 219:Lower 21a:Upper 21b:Lower 21c:Upper",
  "21d:Lower 21e:Upper 21f:Lower 220:Upper 221:Lower 222:Upper 223:Lower 224:Upper",
  "225:Lower 226:Upper 227:Lower 228:Upper 229:Lower 22a:Upper 22b:Lower 22c:Upper",
  "22d:Lower 22e:Upper 22f:Lower 230:Upper 231:Lower 232:Upper 233-239:Lower 23a-23b:Upper",
  "23c:Lower 23d-23e:Upper 23f-240:Lower 241:Upper 242:Lower 243-246:Upper 247:Lower",
  "248:Upper 249:Lower 24a:Upper 24b:Lower 24c:Upper 24d:Lower 24e:Upper 24f-293:Lower",
  "294:OLetter 295-2b8:Lower 2b9-2bf:OLetter 2c0-2c1:Lower 2c6-2d1:OLetter 2e0-2e4:Lower",
  "2ec:OLetter 2ee:OLetter 300-36f:Extend 370:Upper 371:Lower 372:Upper 373:Lower",
  "374:OLetter 376:Upper 377:Lower 37a-37d:Lower 37f:Upper 386:Upper 388-38a:Upper",
  "38c:Upper 38e-38f:Upper 390:Lower 391-3a1:Upper 3a3-3ab:Upper 3ac-3ce:Lower 3cf:Upper",
  "3d0-3d1:Lower 3d2-3d4:Upper 3d5-3d7:Lower 3d8:Upper 3d9:Lower 3da:Upper 3db:Lower",
  "3dc:Upper 3dd:Lower 3de:Upper 3df:Lower 3e0:Upper 3e1:Lower 3e2:Upper 3e3:Lower",
  "3e4:Upper 3e5:Lower 3e6:Upper 3e7:Lower 3e8:Upper 3e9:Lower 3ea:Upper 3eb:Lower",
  "3ec:Upper 3ed:Lower 3ee:Upper 3ef-3f3:Lower 3f4:Upper 3f5:Lower 3f7:Upper 3f8:Lower",
  "3f9-3fa:Upper 3fb-3fc:Lower 3fd-42f:Upper 430-45f:Lower 460:Upper 461:Lower 462:Upper",
  "463:Lower 464:Upper 465:Lower 466:Upper 467:Lower 468:Upper 469:Lower 46a:Upper",
  "46b:Lower 46c:Upper 46d:Lower 46e:Upper 46f:Lower 470:Upper 471:Lower 472:Upper",
  "473:Lower 474:Upper 475:Lower 476:Upper 477:Lower 478:Upper 479:Lower 47a:Upper",
  "47b:Lower 47c:Upper 47d:Lower 47e:Upper 47f:Lower 480:Upper 481:Lower 483-489:Extend",
  "48a:Upper 48b:Lower 48c:Upper 48d:Lower 48e:Upper 48f:Lower 490:Upper 491:Lower",
  "492:Upper 493:Lower 494:Upper 495:Lower 496:Upper 497:Lower 498:Upper 499:Lower",
  "49a:Upper 49b:Lower 49c:Upper 49d:Lower 49e:Upper 49f:Lower 4a0:Upper 4a1:Lower",
  "4a2:Upper 4a3:Lower 4a4:Upper 4a5:Lower 4a6:Upper 4a7:Lower 4a8:Upper 4a9:Lower",
  "4aa:Upper 4ab:Lower 4ac:Upper 4ad:Lower 4ae:Upper 4af:Lower 4b0:Upper 4b1:Lower",
  "4b2:Upper 4b3:Lower 4b4:Upper 4b5:Lower 4b6:Upper 4b7:Lower 4b8:Upper 4b9:Lower",
  "4ba:Upper 4bb:Lower 4bc:Upper 4bd:Lower 4be:Upper 4bf:Lower 4c0-4c1:Upper 4c2:Lower",
  "4c3:Upper 4c4:Lower 4c5:Upper 4c6:Lower 4c7:Upper 4c8:Lower 4c9:Upper 4ca:Lower",
  "4cb:Upper 4cc:Lower 4cd:Upper 4ce-4cf:Lower 4d0:Upper 4d1:Lower 4d2:Upper 4d3:Lower",
  "4d4:Upper 4d5:Lower 4d6:Upper 4d7:Lower 4d8:Upper 4d9:Lower 4da:Upper 4db:Lower",
  "4dc:Upper 4dd:Lower 4de:Upper 4df:Lower 4e0:Upper 4e1:Lower 4e2:Upper 4e3:Lower",
  "4e4:Upper 4e5:Lower 4e6:Upper 4e7:Lower 4e8:Upper 4e9:Lower 4ea:Upper 4eb:Lower",
  "4ec:Upper 4ed:Lower 4ee:Upper 4ef:Lower 4f0:Upper 4f1:Lower 4f2:Upper 4f3:Lower",
  "4f4:Upper 4f5:Lower 4f6:Upper 4f7:Lower 4f8:Upper 4f9:Lower 4fa:Upper 4fb:Lower",
  "4fc:Upper 4fd:Lower 4fe:Upper 4ff:Lower 500:Upper 501:Lower 502:Upper 503:Lower",
  "504:Upper 505:Lower 506:Upper 507:Lower 508:Upper 509:Lower 50a:Upper 50b:Lower",
  "50c:Upper 50d:Lower 50e:Upper 50f:Lower 510:Upper 511:Lower 512:Upper 513:Lower",
  "514:Upper 515:Lower 516:Upper 517:Lower 518:Upper 519:Lower 51a:Upper 51b:Lower",
  "51c:Upper 51d:Lower 51e:Upper 51f:Lower 520:Upper 521:Lower 522:Upper 523:Lower",
  "524:Upper 525:Lower 526:Upper 527:Lower 528:Upper 529:Lower 52a:Upper 52b:Lower",
  "52c:Upper 52d:Lower 52e:Upper 52f:Lower 531-556:Upper 559:OLetter 55d:SContinue",
  "560-588:Lower 589:STerm 591-5bd:Extend 5bf:Extend 5c1-5c2:Extend 5c4-5c5:Extend",
  "5c7:Extend 5d0-5ea:OLetter 5ef-5f3:OLetter 600-605:Format 60c-60d:SContinue",
  "610-61a:Extend 61c:Format 61d-61f:STerm 620-64a:OLetter 64b-65f:Extend 660-669:Numeric",
  "66b-66c:Numeric 66e-66f:OLetter 670:Extend 671-6d3:OLetter 6d4:STerm 6d5:OLetter",
  "6d6-6dc:Extend 6dd:Format 6df-6e4:Extend 6e5-6e6:OLetter 6e7-6e8:Extend 6ea-6ed:Extend",
  "6ee-6ef:OLetter 6f0-6f9:Numeric 6fa-6fc:OLetter 6ff:OLetter 700-702:STerm 70f:Format",
  "710:OLetter 711:Extend 712-72f:OLetter 730-74a:Extend 74d-7a5:OLetter 7a6-7b0:Extend",
  "7b1:OLetter 7c0-7c9:Numeric 7ca-7ea:OLetter 7eb-7f3:Extend 7f4-7f5:OLetter 7f8:SContinue",
  "7f9:STerm 7fa:OLetter 7fd:Extend 800-815:OLetter 816-819:Extend 81a:OLetter",
  "81b-823:Extend 824:OLetter 825-827:Extend 828:OLetter 829-82d:Extend 837:STerm 839:STerm",
  "83d-83e:STerm 840-858:OLetter 859-85b:Extend 860-86a:OLetter 870-887:OLetter",
  "889-88e:OLetter 890-891:Format 897-89f:Extend 8a0-8c9:OLetter 8ca-8e1:Extend 8e2:Format",
  "8e3-903:Extend 904-939:OLetter 93a-93c:Extend 93d:OLetter 93e-94f:Extend 950:OLetter",
  "951-957:Extend 958-961:OLetter 962-963:Extend 964-965:STerm 966-96f:Numeric",
  "971-980:OLetter 981-983:Extend 985-98c:OLetter 98f-990:OLetter 993-9a8:OLetter",
  "9aa-9b0:OLetter 9b2:OLetter 9b6-9b9:OLetter 9bc:Extend 9bd:OLetter 9be-9c4:Extend",
  "9c7-9c8:Extend 9cb-9cd:Extend 9ce:OLetter 9d7:Extend 9dc-9dd:OLetter 9df-9e1:OLetter",
  "9e2-9e3:Extend 9e6-9ef:Numeric 9f0-9f1:OLetter 9fc:OLetter 9fe:Extend a01-a03:Extend",
  "a05-a0a:OLetter a0f-a10:OLetter a13-a28:OLetter a2a-a30:OLetter a32-a33:OLetter",
  "a35-a36:OLetter a38-a39:OLetter a3c:Extend a3e-a42:Extend a47-a48:Extend a4b-a4d:Extend",
  "a51:Extend a59-a5c:OLetter a5e:OLetter a66-a6f:Numeric a70-a71:Extend a72-a74:OLetter",
  "a75:Extend a81-a83:Extend a85-a8d:OLetter a8f-a91:OLetter a93-aa8:OLetter",
  "aaa-ab0:OLetter ab2-ab3:OLetter ab5-ab9:OLetter abc:Extend abd:OLetter abe-ac5:Extend",
  "ac7-ac9:Extend acb-acd:Extend ad0:OLetter ae0-ae1:OLetter ae2-ae3:Extend ae6-aef:Numeric",
  "af9:OLetter afa-aff:Extend b01-b03:Extend b05-b0c:OLetter b0f-b10:OLetter",
  "b13-b28:OLetter b2a-b30:OLetter b32-b33:OLetter b35-b39:OLetter b3c:Extend b3d:OLetter",
  "b3e-b44:Extend b47-b48:Extend b4b-b4d:Extend b55-b57:Extend b5c-b5d:OLetter",
  "b5f-b61:OLetter b62-b63:Extend b66-b6f:Numeric b71:OLetter b82:Extend b83:OLetter",
  "b85-b8a:OLetter b8e-b90:OLetter b92-b95:OLetter b99-b9a:OLetter b9c:OLetter",
  "b9e-b9f:OLetter ba3-ba4:OLetter ba8-baa:OLetter bae-bb9:OLetter bbe-bc2:Extend",
  "bc6-bc8:Extend bca-bcd:Extend bd0:OLetter bd7:Extend be6-bef:Numeric c00-c04:Extend",
  "c05-c0c:OLetter c0e-c10:OLetter c12-c28:OLetter c2a-c39:OLetter c3c:Extend c3d:OLetter",
  "c3e-c44:Extend c46-c48:Extend c4a-c4d:Extend c55-c56:Extend c58-c5a:OLetter c5d:OLetter",
  "c60-c61:OLetter c62-c63:Extend c66-c6f:Numeric c80:OLetter c81-c83:Extend",
  "c85-c8c:OLetter c8e-c90:OLetter c92-ca8:OLetter caa-cb3:OLetter cb5-cb9:OLetter",
  "cbc:Extend cbd:OLetter cbe-cc4:Extend cc6-cc8:Extend cca-ccd:Extend cd5-cd6:Extend",
  "cdd-cde:OLetter ce0-ce1:OLetter ce2-ce3:Extend ce6-cef:Numeric cf1-cf2:OLetter",
  "cf3:Extend d00-d03:Extend d04-d0c:OLetter d0e-d10:OLetter d12-d3a:OLetter d3b-d3c:Extend",
  "d3d:OLetter d3e-d44:Extend d46-d48:Extend d4a-d4d:Extend d4e:OLetter d54-d56:OLetter",
  "d57:Extend d5f-d61:OLetter d62-d63:Extend d66-d6f:Numeric d7a-d7f:OLetter d81-d83:Extend",
  "d85-d96:OLetter d9a-db1:OLetter db3-dbb:OLetter dbd:OLetter dc0-dc6:OLetter dca:Extend",
  "dcf-dd4:Extend dd6:Extend dd8-ddf:Extend de6-def:Numeric df2-df3:Extend e01-e30:OLetter",
  "e31:Extend e32-e33:OLetter e34-e3a:Extend e40-e46:OLetter e47-e4e:Extend e50-e59:Numeric",
  "e81-e82:OLetter e84:OLetter e86-e8a:OLetter e8c-ea3:OLetter ea5:OLetter ea7-eb0:OLetter",
  "eb1:Extend eb2-eb3:OLetter eb4-ebc:Extend ebd:OLetter ec0-ec4:OLetter ec6:OLetter",
  "ec8-ece:Extend ed0-ed9:Numeric edc-edf:OLetter f00:OLetter f18-f19:Extend",
  "f20-f29:Numeric f35:Extend f37:Extend f39:Extend f3a-f3d:Close f3e-f3f:Extend",
  "f40-f47:OLetter f49-f6c:OLetter f71-f84:Extend f86-f87:Extend f88-f8c:OLetter",
  "f8d-f97:Extend f99-fbc:Extend fc6:Extend 1000-102a:OLetter 102b-103e:Extend 103f:OLetter",
  "1040-1049:Numeric 104a-104b:STerm 1050-1055:OLetter 1056-1059:Extend 105a-105d:OLetter",
  "105e-1060:Extend 1061:OLetter 1062-1064:Extend 1065-1066:OLetter 1067-106d:Extend",
  "106e-1070:OLetter 1071-1074:Extend 1075-1081:OLetter 1082-108d:Extend 108e:OLetter",
  "108f:Extend 1090-1099:Numeric 109a-109d:Extend 10a0-10c5:Upper 10c7:Upper 10cd:Upper",
  "10d0-10fa:OLetter 10fc:Lower 10fd-1248:OLetter 124a-124d:OLetter 1250-1256:OLetter",
  "1258:OLetter 125a-125d:OLetter 1260-1288:OLetter 128a-128d:OLetter 1290-12b0:OLetter",
  "12b2-12b5:OLetter 12b8-12be:OLetter 12c0:OLetter 12c2-12c5:OLetter 12c8-12d6:OLetter",
  "12d8-1310:OLetter 1312-1315:OLetter 1318-135a:OLetter 135d-135f:Extend 1362:STerm",
  "1367-1368:STerm 1380-138f:OLetter 13a0-13f5:Upper 13f8-13fd:Lower 1401-166c:OLetter",
  "166e:STerm 166f-167f:OLetter 1680:Sp 1681-169a:OLetter 169b-169c:Close 16a0-16ea:OLetter",
  "16ee-16f8:OLetter 1700-1711:OLetter 1712-1715:Extend 171f-1731:OLetter 1732-1734:Extend",
  "1735-1736:STerm 1740-1751:OLetter 1752-1753:Extend 1760-176c:OLetter 176e-1770:OLetter",
  "1772-1773:Extend 1780-17b3:OLetter 17b4-17d3:Extend 17d7:OLetter 17dc:OLetter",
  "17dd:Extend 17e0-17e9:Numeric 1802:SContinue 1803:STerm 1808:SContinue 1809:STerm",
  "180b-180d:Extend 180e:Format 180f:Extend 1810-1819:Numeric 1820-1878:OLetter",
  "1880-1884:OLetter 1885-1886:Extend 1887-18a8:OLetter 18a9:Extend 18aa:OLetter",
  "18b0-18f5:OLetter 1900-191e:OLetter 1920-192b:Extend 1930-193b:Extend 1944-1945:STerm",
  "1946-194f:Numeric 1950-196d:OLetter 1970-1974:OLetter 1980-19ab:OLetter",
  "19b0-19c9:OLetter 19d0-19d9:Numeric 1a00-1a16:OLetter 1a17-1a1b:Extend 1a20-1a54:OLetter",
  "1a55-1a5e:Extend 1a60-1a7c:Extend 1a7f:Extend 1a80-1a89:Numeric 1a90-1a99:Numeric",
  "1aa7:OLetter 1aa8-1aab:STerm 1ab0-1ace:Extend 1b00-1b04:Extend 1b05-1b33:OLetter",
  "1b34-1b44:Extend 1b45-1b4c:OLetter 1b50-1b59:Numeric 1b5a-1b5b:STerm 1b5e-1b5f:STerm",
  "1b6b-1b73:Extend 1b7d-1b7e:STerm 1b80-1b82:Extend 1b83-1ba0:OLetter 1ba1-1bad:Extend",
  "1bae-1baf:OLetter 1bb0-1bb9:Numeric 1bba-1be5:OLetter 1be6-1bf3:Extend 1c00-1c23:OLetter",
  "1c24-1c37:Extend 1c3b-1c3c:STerm 1c40-1c49:Numeric 1c4d-1c4f:OLetter 1c50-1c59:Numeric",
  "1c5a-1c7d:OLetter 1c7e-1c7f:STerm 1c80-1c88:Lower 1c89:Upper 1c8a:Lower",
  "1c90-1cba:OLetter 1cbd-1cbf:OLetter 1cd0-1cd2:Extend 1cd4-1ce8:Extend 1ce9-1cec:OLetter",
  "1ced:Extend 1cee-1cf3:OLetter 1cf4:Extend 1cf5-1cf6:OLetter 1cf7-1cf9:Extend",
  "1cfa:OLetter 1d00-1dbf:Lower 1dc0-1dff:Extend 1e00:Upper 1e01:Lower 1e02:Upper",
  "1e03:Lower 1e04:Upper 1e05:Lower 1e06:Upper 1e07:Lower 1e08:Upper 1e09:Lower 1e0a:Upper",
  "1e0b:Lower 1e0c:Upper 1e0d:Lower 1e0e:Upper 1e0f:Lower 1e10:Upper 1e11:Lower 1e12:Upper",
  "1e13:Lower 1e14:Upper 1e15:Lower 1e16:Upper 1e17:Lower 1e18:Upper 1e19:Lower 1e1a:Upper",
  "1e1b:Lower 1e1c:Upper 1e1d:Lower 1e1e:Upper 1e1f:Lower 1e20:Upper 1e21:Lower 1e22:Upper",
  "1e23:Lower 1e24:Upper 1e25:Lower 1e26:Upper 1e27:Lower 1e28:Upper 1e29:Lower 1e2a:Upper",
  "1e2b:Lower 1e2c:Upper 1e2d:Lower 1e2e:Upper 1e2f:Lower 1e30:Upper 1e31:Lower 1e32:Upper",
  "1e33:Lower 1e34:Upper 1e35:Lower 1e36:Upper 1e37:Lower 1e38:Upper 1e39:Lower 1e3a:Upper",
  "1e3b:Lower 1e3c:Upper 1e3d:Lower 1e3e:Upper 1e3f:Lower 1e40:Upper 1e41:Lower 1e42:Upper",
  "1e43:Lower 1e44:Upper 1e45:Lower 1e46:Upper 1e47:Lower 1e48:Upper 1e49:Lower 1e4a:Upper",
  "1e4b:Lower 1e4c:Upper 1e4d:Lower 1e4e:Upper 1e4f:Lower 1e50:Upper 1e51:Lower 1e52:Upper",
  "1e53:Lower 1e54:Upper 1e55:Lower 1e56:Upper 1e57:Lower 1e58:Upper 1e59:Lower 1e5a:Upper",
  "1e5b:Lower 1e5c:Upper 1e5d:Lower 1e5e:Upper 1e5f:Lower 1e60:Upper 1e61:Lower 1e62:Upper",
  "1e63:Lower 1e64:Upper 1e65:Lower 1e66:Upper 1e67:Lower 1e68:Upper 1e69:Lower 1e6a:Upper",
  "1e6b:Lower 1e6c:Upper 1e6d:Lower 1e6e:Upper 1e6f:Lower 1e70:Upper 1e71:Lower 1e72:Upper",
  "1e73:Lower 1e74:Upper 1e75:Lower 1e76:Upper 1e77:Lower 1e78:Upper 1e79:Lower 1e7a:Upper",
  "1e7b:Lower 1e7c:Upper 1e7d:Lower 1e7e:Upper 1e7f:Lower 1e80:Upper 1e81:Lower 1e82:Upper",
  "1e83:Lower 1e84:Upper 1e85:Lower 1e86:Upper 1e87:Lower 1e88:Upper 1e89:Lower 1e8a:Upper",
  "1e8b:Lower 1e8c:Upper 1e8d:Lower 1e8e:Upper 1e8f:Lower 1e90:Upper 1e91:Lower 1e92:Upper",
  "1e93:Lower 1e94:Upper 1e95-1e9d:Lower 1e9e:Upper 1e9f:Lower 1ea0:Upper 1ea1:Lower",
  "1ea2:Upper 1ea3:Lower 1ea4:Upper 1ea5:Lower 1ea6:Upper 1ea7:Lower 1ea8:Upper 1ea9:Lower",
  "1eaa:Upper 1eab:Lower 1eac:Upper 1ead:Lower 1eae:Upper 1eaf:Lower 1eb0:Upper 1eb1:Lower",
  "1eb2:Upper 1eb3:Lower 1eb4:Upper 1eb5:Lower 1eb6:Upper 1eb7:Lower 1eb8:Upper 1eb9:Lower",
  "1eba:Upper 1ebb:Lower 1ebc:Upper 1ebd:Lower 1ebe:Upper 1ebf:Lower 1ec0:Upper 1ec1:Lower",
  "1ec2:Upper 1ec3:Lower 1ec4:Upper 1ec5:Lower 1ec6:Upper 1ec7:Lower 1ec8:Upper 1ec9:Lower",
  "1eca:Upper 1ecb:Lower 1ecc:Upper 1ecd:Lower 1ece:Upper 1ecf:Lower 1ed0:Upper 1ed1:Lower",
  "1ed2:Upper 1ed3:Lower 1ed4:Upper 1ed5:Lower 1ed6:Upper 1ed7:Lower 1ed8:Upper 1ed9:Lower",
  "1eda:Upper 1edb:Lower 1edc:Upper 1edd:Lower 1ede:Upper 1edf:Lower 1ee0:Upper 1ee1:Lower",
  "1ee2:Upper 1ee3:Lower 1ee4:Upper 1ee5:Lower 1ee6:Upper 1ee7:Lower 1ee8:Upper 1ee9:Lower",
  "1eea:Upper 1eeb:Lower 1eec:Upper 1eed:Lower 1eee:Upper 1eef:Lower 1ef0:Upper 1ef1:Lower",
  "1ef2:Upper 1ef3:Lower 1ef4:Upper 1ef5:Lower 1ef6:Upper 1ef7:Lower 1ef8:Upper 1ef9:Lower",
  "1efa:Upper 1efb:Lower 1efc:Upper 1efd:Lower 1efe:Upper 1eff-1f07:Lower 1f08-1f0f:Upper",
  "1f10-1f15:Lower 1f18-1f1d:Upper 1f20-1f27:Lower 1f28-1f2f:Upper 1f30-1f37:Lower",
  "1f38-1f3f:Upper 1f40-1f45:Lower 1f48-1f4d:Upper 1f50-1f57:Lower 1f59:Upper 1f5b:Upper",
  "1f5d:Upper 1f5f:Upper 1f60-1f67:Lower 1f68-1f6f:Upper 1f70-1f7d:Lower 1f80-1f87:Lower",
  "1f88-1f8f:Upper 1f90-1f97:Lower 1f98-1f9f:Upper 1fa0-1fa7:Lower 1fa8-1faf:Upper",
  "1fb0-1fb4:Lower 1fb6-1fb7:Lower 1fb8-1fbc:Upper 1fbe:Lower 1fc2-1fc4:Lower",
  "1fc6-1fc7:Lower 1fc8-1fcc:Upper 1fd0-1fd3:Lower 1fd6-1fd7:Lower 1fd8-1fdb:Upper",
  "1fe0-1fe7:Lower 1fe8-1fec:Upper 1ff2-1ff4:Lower 1ff6-1ff7:Lower 1ff8-1ffc:Upper",
  "2000-200a:Sp 200b:Format 200c-200d:Extend 200e-200f:Format 2013-2014:SContinue",
  "2018-201f:Close 2024:ATerm 2028-2029:Sep 202a-202e:Format 202f:Sp 2039-203a:Close",
  "203c-203d:STerm 2045-2046:Close 2047-2049:STerm 205f:Sp 2060-2064:Format",
  "2066-206f:Format 2071:Lower 207d-207e:Close 207f:Lower 208d-208e:Close 2090-209c:Lower",
  "20d0-20f0:Extend 2102:Upper 2107:Upper 210a:Lower 210b-210d:Upper 210e-210f:Lower",
  "2110-2112:Upper 2113:Lower 2115:Upper 2119-211d:Upper 2124:Upper 2126:Upper 2128:Upper",
  "212a-212d:Upper 212f:Lower 2130-2133:Upper 2134:Lower 2135-2138:OLetter 2139:Lower",
  "213c-213d:Lower 213e-213f:Upper 2145:Upper 2146-2149:Lower 214e:Lower 2160-216f:Upper",
  "2170-217f:Lower 2180-2182:OLetter 2183:Upper 2184:Lower 2185-2188:OLetter",
  "2308-230b:Close 2329-232a:Close 24b6-24cf:Upper 24d0-24e9:Lower 275b-2760:Close",
  "2768-2775:Close 27c5-27c6:Close 27e6-27ef:Close 2983-2998:Close 29d8-29db:Close",
  "29fc-29fd:Close 2c00-2c2f:Upper 2c30-2c5f:Lower 2c60:Upper 2c61:Lower 2c62-2c64:Upper",
  "2c65-2c66:Lower 2c67:Upper 2c68:Lower 2c69:Upper 2c6a:Lower 2c6b:Upper 2c6c:Lower",
  "2c6d-2c70:Upper 2c71:Lower 2c72:Upper 2c73-2c74:Lower 2c75:Upper 2c76-2c7d:Lower",
  "2c7e-2c80:Upper 2c81:Lower 2c82:Upper 2c83:Lower 2c84:Upper 2c85:Lower 2c86:Upper",
  "2c87:Lower 2c88:Upper 2c89:Lower 2c8a:Upper 2c8b:Lower 2c8c:Upper 2c8d:Lower 2c8e:Upper",
  "2c8f:Lower 2c90:Upper 2c91:Lower 2c92:Upper 2c93:Lower 2c94:Upper 2c95:Lower 2c96:Upper",
  "2c97:Lower 2c98:Upper 2c99:Lower 2c9a:Upper 2c9b:Lower 2c9c:Upper 2c9d:Lower 2c9e:Upper",
  "2c9f:Lower 2ca0:Upper 2ca1:Lower 2ca2:Upper 2ca3:Lower 2ca4:Upper 2ca5:Lower 2ca6:Upper",
  "2ca7:Lower 2ca8:Upper 2ca9:Lower 2caa:Upper 2cab:Lower 2cac:Upper 2cad:Lower 2cae:Upper",
  "2caf:Lower 2cb0:Upper 2cb1:Lower 2cb2:Upper 2cb3:Lower 2cb4:Upper 2cb5:Lower 2cb6:Upper",
  "2cb7:Lower 2cb8:Upper 2cb9:Lower 2cba:Upper 2cbb:Lower 2cbc:Upper 2cbd:Lower 2cbe:Upper",
  "2cbf:Lower 2cc0:Upper 2cc1:Lower 2cc2:Upper 2cc3:Lower 2cc4:Upper 2cc5:Lower 2cc6:Upper",
  "2cc7:Lower 2cc8:Upper 2cc9:Lower 2cca:Upper 2ccb:Lower 2ccc:Upper 2ccd:Lower 2cce:Upper",
  "2ccf:Lower 2cd0:Upper 2cd1:Lower 2cd2:Upper 2cd3:Lower 2cd4:Upper 2cd5:Lower 2cd6:Upper",
  "2cd7:Lower 2cd8:Upper 2cd9:Lower 2cda:Upper 2cdb:Lower 2cdc:Upper 2cdd:Lower 2cde:Upper",
  "2cdf:Lower 2ce0:Upper 2ce1:Lower 2ce2:Upper 2ce3-2ce4:Lower 2ceb:Upper 2cec:Lower",
  "2ced:Upper 2cee:Lower 2cef-2cf1:Extend 2cf2:Upper 2cf3:Lower 2d00-2d25:Lower 2d27:Lower",
  "2d2d:Lower 2d30-2d67:OLetter 2d6f:OLetter 2d7f:Extend 2d80-2d96:OLetter",
  "2da0-2da6:OLetter 2da8-2dae:OLetter 2db0-2db6:OLetter 2db8-2dbe:OLetter",
  "2dc0-2dc6:OLetter 2dc8-2dce:OLetter 2dd0-2dd6:OLetter 2dd8-2dde:OLetter 2de0-2dff:Extend",
  "2e00-2e0d:Close 2e1c-2e1d:Close 2e20-2e29:Close 2e2e:STerm 2e2f:OLetter 2e3c:STerm",
  "2e42:Close 2e53-2e54:STerm 2e55-2e5c:Close 3000:Sp 3001:SContinue 3002:STerm",
  "3005-3007:OLetter 3008-3011:Close 3014-301b:Close 301d-301f:Close 3021-3029:OLetter",
  "302a-302f:Extend 3031-3035:OLetter 3038-303c:OLetter 3041-3096:OLetter 3099-309a:Extend",
  "309d-309f:OLetter 30a1-30fa:OLetter 30fc-30ff:OLetter 3105-312f:OLetter",
  "3131-318e:OLetter 31a0-31bf:OLetter 31f0-31ff:OLetter 3400-4dbf:OLetter",
  "4e00-a48c:OLetter a4d0-a4fd:OLetter a4ff:STerm a500-a60c:OLetter a60e-a60f:STerm",
  "a610-a61f:OLetter a620-a629:Numeric a62a-a62b:OLetter a640:Upper a641:Lower a642:Upper",
  "a643:Lower a644:Upper a645:Lower a646:Upper a647:Lower a648:Upper a649:Lower a64a:Upper",
  "a64b:Lower a64c:Upper a64d:Lower a64e:Upper a64f:Lower a650:Upper a651:Lower a652:Upper",
  "a653:Lower a654:Upper a655:Lower a656:Upper a657:Lower a658:Upper a659:Lower a65a:Upper",
  "a65b:Lower a65c:Upper a65d:Lower a65e:Upper a65f:Lower a660:Upper a661:Lower a662:Upper",
  "a663:Lower a664:Upper a665:Lower a666:Upper a667:Lower a668:Upper a669:Lower a66a:Upper",
  "a66b:Lower a66c:Upper a66d:Lower a66e:OLetter a66f-a672:Extend a674-a67d:Extend",
  "a67f:OLetter a680:Upper a681:Lower a682:Upper a683:Lower a684:Upper a685:Lower",
  "a686:Upper a687:Lower a688:Upper a689:Lower a68a:Upper a68b:Lower a68c:Upper a68d:Lower",
  "a68e:Upper a68f:Lower a690:Upper a691:Lower a692:Upper a693:Lower a694:Upper a695:Lower",
  "a696:Upper a697:Lower a698:Upper a699:Lower a69a:Upper a69b-a69d:Lower a69e-a69f:Extend",
  "a6a0-a6ef:OLetter a6f0-a6f1:Extend a6f3:STerm a6f7:STerm a717-a71f:OLetter a722:Upper",
  "a723:Lower a724:Upper a725:Lower a726:Upper a727:Lower a728:Upper a729:Lower a72a:Upper",
  "a72b:Lower a72c:Upper a72d:Lower a72e:Upper a72f-a731:Lower a732:Upper a733:Lower",
  "a734:Upper a735:Lower a736:Upper a737:Lower a738:Upper a739:Lower a73a:Upper a73b:Lower",
  "a73c:Upper a73d:Lower a73e:Upper a73f:Lower a740:Upper a741:Lower a742:Upper a743:Lower",
  "a744:Upper a745:Lower a746:Upper a747:Lower a748:Upper a749:Lower a74a:Upper a74b:Lower",
  "a74c:Upper a74d:Lower a74e:Upper a74f:Lower a750:Upper a751:Lower a752:Upper a753:Lower",
  "a754:Upper a755:Lower a756:Upper a757:Lower a758:Upper a759:Lower a75a:Upper a75b:Lower",
  "a75c:Upper a75d:Lower a75e:Upper a75f:Lower a760:Upper a761:Lower a762:Upper a763:Lower",
  "a764:Upper a765:Lower a766:Upper a767:Lower a768:Upper a769:Lower a76a:Upper a76b:Lower",
  "a76c:Upper a76d:Lower a76e:Upper a76f-a778:Lower a779:Upper a77a:Lower a77b:Upper",
  "a77c:Lower a77d-a77e:Upper a77f:Lower a780:Upper a781:Lower a782:Upper a783:Lower",
  "a784:Upper a785:Lower a786:Upper a787:Lower a788:OLetter a78b:Upper a78c:Lower",
  "a78d:Upper a78e:Lower a78f:OLetter a790:Upper a791:Lower a792:Upper a793-a795:Lower",
  "a796:Upper a797:Lower a798:Upper a799:Lower a79a:Upper a79b:Lower a79c:Upper a79d:Lower",
  "a79e:Upper a79f:Lower a7a0:Upper a7a1:Lower a7a2:Upper a7a3:Lower a7a4:Upper a7a5:Lower",
  "a7a6:Upper a7a7:Lower a7a8:Upper a7a9:Lower a7aa-a7ae:Upper a7af:Lower a7b0-a7b4:Upper",
  "a7b5:Lower a7b6:Upper a7b7:Lower a7b8:Upper a7b9:Lower a7ba:Upper a7bb:Lower a7bc:Upper",
  "a7bd:Lower a7be:Upper a7bf:Lower a7c0:Upper a7c1:Lower a7c2:Upper a7c3:Lower",
  "a7c4-a7c7:Upper a7c8:Lower a7c9:Upper a7ca:Lower a7cb-a7cc:Upper a7cd:Lower a7d0:Upper",
  "a7d1:Lower a7d3:Lower a7d5:Lower a7d6:Upper a7d7:Lower a7d8:Upper a7d9:Lower a7da:Upper",
  "a7db:Lower a7dc:Upper a7f2-a7f4:Lower a7f5:Upper a7f6:Lower a7f7:OLetter a7f8-a7fa:Lower",
  "a7fb-a801:OLetter a802:Extend a803-a805:OLetter a806:Extend a807-a80a:OLetter",
  "a80b:Extend a80c-a822:OLetter a823-a827:Extend a82c:Extend a840-a873:OLetter",
  "a876-a877:STerm a880-a881:Extend a882-a8b3:OLetter a8b4-a8c5:Extend a8ce-a8cf:STerm",
  "a8d0-a8d9:Numeric a8e0-a8f1:Extend a8f2-a8f7:OLetter a8fb:OLetter a8fd-a8fe:OLetter",
  "a8ff:Extend a900-a909:Numeric a90a-a925:OLetter a926-a92d:Extend a92f:STerm",
  "a930-a946:OLetter a947-a953:Extend a960-a97c:OLetter a980-a983:Extend a984-a9b2:OLetter",
  "a9b3-a9c0:Extend a9c8-a9c9:STerm a9cf:OLetter a9d0-a9d9:Numeric a9e0-a9e4:OLetter",
  "a9e5:Extend a9e6-a9ef:OLetter a9f0-a9f9:Numeric a9fa-a9fe:OLetter aa00-aa28:OLetter",
  "aa29-aa36:Extend aa40-aa42:OLetter aa43:Extend aa44-aa4b:OLetter aa4c-aa4d:Extend",
  "aa50-aa59:Numeric aa5d-aa5f:STerm aa60-aa76:OLetter aa7a:OLetter aa7b-aa7d:Extend",
  "aa7e-aaaf:OLetter aab0:Extend aab1:OLetter aab2-aab4:Extend aab5-aab6:OLetter",
  "aab7-aab8:Extend aab9-aabd:OLetter aabe-aabf:Extend aac0:OLetter aac1:Extend",
  "aac2:OLetter aadb-aadd:OLetter aae0-aaea:OLetter aaeb-aaef:Extend aaf0-aaf1:STerm",
  "aaf2-aaf4:OLetter aaf5-aaf6:Extend ab01-ab06:OLetter ab09-ab0e:OLetter ab11-ab16:OLetter",
  "ab20-ab26:OLetter ab28-ab2e:OLetter ab30-ab5a:Lower ab5c-ab69:Lower ab70-abbf:Lower",
  "abc0-abe2:OLetter abe3-abea:Extend abeb:STerm abec-abed:Extend abf0-abf9:Numeric",
  "ac00-d7a3:OLetter d7b0-d7c6:OLetter d7cb-d7fb:OLetter f900-fa6d:OLetter",
  "fa70-fad9:OLetter fb00-fb06:Lower fb13-fb17:Lower fb1d:OLetter fb1e:Extend",
  "fb1f-fb28:OLetter fb2a-fb36:OLetter fb38-fb3c:OLetter fb3e:OLetter fb40-fb41:OLetter",
  "fb43-fb44:OLetter fb46-fbb1:OLetter fbd3-fd3d:OLetter fd3e-fd3f:Close fd50-fd8f:OLetter",
  "fd92-fdc7:OLetter fdf0-fdfb:OLetter fe00-fe0f:Extend fe10-fe11:SContinue fe13:SContinue",
  "fe17-fe18:Close fe20-fe2f:Extend fe31-fe32:SContinue fe35-fe44:Close fe47-fe48:Close",
  "fe50-fe51:SContinue fe52:ATerm fe55:SContinue fe56-fe57:STerm fe58:SContinue",
  "fe59-fe5e:Close fe63:SContinue fe70-fe74:OLetter fe76-fefc:OLetter feff:Format",
  "ff01:STerm ff08-ff09:Close ff0c-ff0d:SContinue ff0e:ATerm ff10-ff19:Numeric",
  "ff1a:SContinue ff1f:STerm ff21-ff3a:Upper ff3b:Close ff3d:Close ff41-ff5a:Lower",
  "ff5b:Close ff5d:Close ff5f-ff60:Close ff61:STerm ff62-ff63:Close ff64:SContinue",
  "ff66-ff9d:OLetter ff9e-ff9f:Extend ffa0-ffbe:OLetter ffc2-ffc7:OLetter ffca-ffcf:OLetter",
  "ffd2-ffd7:OLetter ffda-ffdc:OLetter fff9-fffb:Format 10000-1000b:OLetter",
  "1000d-10026:OLetter 10028-1003a:OLetter 1003c-1003d:OLetter 1003f-1004d:OLetter",
  "10050-1005d:OLetter 10080-100fa:OLetter 10140-10174:OLetter 101fd:Extend",
  "10280-1029c:OLetter 102a0-102d0:OLetter 102e0:Extend 10300-1031f:OLetter",
  "1032d-1034a:OLetter 10350-10375:OLetter 10376-1037a:Extend 10380-1039d:OLetter",
  "103a0-103c3:OLetter 103c8-103cf:OLetter 103d1-103d5:OLetter 10400-10427:Upper",
  "10428-1044f:Lower 10450-1049d:OLetter 104a0-104a9:Numeric 104b0-104d3:Upper",
  "104d8-104fb:Lower 10500-10527:OLetter 10530-10563:OLetter 10570-1057a:Upper",
  "1057c-1058a:Upper 1058c-10592:Upper 10594-10595:Upper 10597-105a1:Lower",
  "105a3-105b1:Lower 105b3-105b9:Lower 105bb-105bc:Lower 105c0-105f3:OLetter",
  "10600-10736:OLetter 10740-10755:OLetter 10760-10767:OLetter 10780:Lower",
  "10781-10782:OLetter 10783-10785:Lower 10787-107b0:Lower 107b2-107ba:Lower",
  "10800-10805:OLetter 10808:OLetter 1080a-10835:OLetter 10837-10838:OLetter 1083c:OLetter",
  "1083f-10855:OLetter 10860-10876:OLetter 10880-1089e:OLetter 108e0-108f2:OLetter",
  "108f4-108f5:OLetter 10900-10915:OLetter 10920-10939:OLetter 10980-109b7:OLetter",
  "109be-109bf:OLetter 10a00:OLetter 10a01-10a03:Extend 10a05-10a06:Extend",
  "10a0c-10a0f:Extend 10a10-10a13:OLetter 10a15-10a17:OLetter 10a19-10a35:OLetter",
  "10a38-10a3a:Extend 10a3f:Extend 10a56-10a57:STerm 10a60-10a7c:OLetter",
  "10a80-10a9c:OLetter 10ac0-10ac7:OLetter 10ac9-10ae4:OLetter 10ae5-10ae6:Extend",
  "10b00-10b35:OLetter 10b40-10b55:OLetter 10b60-10b72:OLetter 10b80-10b91:OLetter",
  "10c00-10c48:OLetter 10c80-10cb2:Upper 10cc0-10cf2:Lower 10d00-10d23:OLetter",
  "10d24-10d27:Extend 10d30-10d39:Numeric 10d40-10d49:Numeric 10d4a-10d4f:OLetter",
  "10d50-10d65:Upper 10d69-10d6d:Extend 10d6f:OLetter 10d70-10d85:Lower 10e80-10ea9:OLetter",
  "10eab-10eac:Extend 10eb0-10eb1:OLetter 10ec2-10ec4:OLetter 10efc-10eff:Extend",
  "10f00-10f1c:OLetter 10f27:OLetter 10f30-10f45:OLetter 10f46-10f50:Extend",
  "10f55-10f59:STerm 10f70-10f81:OLetter 10f82-10f85:Extend 10f86-10f89:STerm",
  "10fb0-10fc4:OLetter 10fe0-10ff6:OLetter 11000-11002:Extend 11003-11037:OLetter",
  "11038-11046:Extend 11047-11048:STerm 11066-1106f:Numeric 11070:Extend",
  "11071-11072:OLetter 11073-11074:Extend 11075:OLetter 1107f-11082:Extend",
  "11083-110af:OLetter 110b0-110ba:Extend 110bd:Format 110be-110c1:STerm 110c2:Extend",
  "110cd:Format 110d0-110e8:OLetter 110f0-110f9:Numeric 11100-11102:Extend",
  "11103-11126:OLetter 11127-11134:Extend 11136-1113f:Numeric 11141-11143:STerm",
  "11144:OLetter 11145-11146:Extend 11147:OLetter 11150-11172:OLetter 11173:Extend",
  "11176:OLetter 11180-11182:Extend 11183-111b2:OLetter 111b3-111c0:Extend",
  "111c1-111c4:OLetter 111c5-111c6:STerm 111c9-111cc:Extend 111cd:STerm 111ce-111cf:Extend",
  "111d0-111d9:Numeric 111da:OLetter 111dc:OLetter 111de-111df:STerm 11200-11211:OLetter",
  "11213-1122b:OLetter 1122c-11237:Extend 11238-11239:STerm 1123b-1123c:STerm 1123e:Extend",
  "1123f-11240:OLetter 11241:Extend 11280-11286:OLetter 11288:OLetter 1128a-1128d:OLetter",
  "1128f-1129d:OLetter 1129f-112a8:OLetter 112a9:STerm 112b0-112de:OLetter",
  "112df-112ea:Extend 112f0-112f9:Numeric 11300-11303:Extend 11305-1130c:OLetter",
  "1130f-11310:OLetter 11313-11328:OLetter 1132a-11330:OLetter 11332-11333:OLetter",
  "11335-11339:OLetter 1133b-1133c:Extend 1133d:OLetter 1133e-11344:Extend",
  "11347-11348:Extend 1134b-1134d:Extend 11350:OLetter 11357:Extend 1135d-11361:OLetter",
  "11362-11363:Extend 11366-1136c:Extend 11370-11374:Extend 11380-11389:OLetter",
  "1138b:OLetter 1138e:OLetter 11390-113b5:OLetter 113b7:OLetter 113b8-113c0:Extend",
  "113c2:Extend 113c5:Extend 113c7-113ca:Extend 113cc-113d0:Extend 113d1:OLetter",
  "113d2:Extend 113d3:OLetter 113d4-113d5:STerm 113e1-113e2:Extend 11400-11434:OLetter",
  "11435-11446:Extend 11447-1144a:OLetter 1144b-1144c:STerm 11450-11459:Numeric",
  "1145e:Extend 1145f-11461:OLetter 11480-114af:OLetter 114b0-114c3:Extend",
  "114c4-114c5:OLetter 114c7:OLetter 114d0-114d9:Numeric 11580-115ae:OLetter",
  "115af-115b5:Extend 115b8-115c0:Extend 115c2-115c3:STerm 115c9-115d7:STerm",
  "115d8-115db:OLetter 115dc-115dd:Extend 11600-1162f:OLetter 11630-11640:Extend",
  "11641-11642:STerm 11644:OLetter 11650-11659:Numeric 11680-116aa:OLetter",
  "116ab-116b7:Extend 116b8:OLetter 116c0-116c9:Numeric 116d0-116e3:Numeric",
  "11700-1171a:OLetter 1171d-1172b:Extend 11730-11739:Numeric 1173c-1173e:STerm",
  "11740-11746:OLetter 11800-1182b:OLetter 1182c-1183a:Extend 118a0-118bf:Upper",
  "118c0-118df:Lower 118e0-118e9:Numeric 118ff-11906:OLetter 11909:OLetter",
  "1190c-11913:OLetter 11915-11916:OLetter 11918-1192f:OLetter 11930-11935:Extend",
  "11937-11938:Extend 1193b-1193e:Extend 1193f:OLetter 11940:Extend 11941:OLetter",
  "11942-11943:Extend 11944:STerm 11946:STerm 11950-11959:Numeric 119a0-119a7:OLetter",
  "119aa-119d0:OLetter 119d1-119d7:Extend 119da-119e0:Extend 119e1:OLetter 119e3:OLetter",
  "119e4:Extend 11a00:OLetter 11a01-11a0a:Extend 11a0b-11a32:OLetter 11a33-11a39:Extend",
  "11a3a:OLetter 11a3b-11a3e:Extend 11a42-11a43:STerm 11a47:Extend 11a50:OLetter",
  "11a51-11a5b:Extend 11a5c-11a89:OLetter 11a8a-11a99:Extend 11a9b-11a9c:STerm",
  "11a9d:OLetter 11ab0-11af8:OLetter 11bc0-11be0:OLetter 11bf0-11bf9:Numeric",
  "11c00-11c08:OLetter 11c0a-11c2e:OLetter 11c2f-11c36:Extend 11c38-11c3f:Extend",
  "11c40:OLetter 11c41-11c42:STerm 11c50-11c59:Numeric 11c72-11c8f:OLetter",
  "11c92-11ca7:Extend 11ca9-11cb6:Extend 11d00-11d06:OLetter 11d08-11d09:OLetter",
  "11d0b-11d30:OLetter 11d31-11d36:Extend 11d3a:Extend 11d3c-11d3d:Extend",
  "11d3f-11d45:Extend 11d46:OLetter 11d47:Extend 11d50-11d59:Numeric 11d60-11d65:OLetter",
  "11d67-11d68:OLetter 11d6a-11d89:OLetter 11d8a-11d8e:Extend 11d90-11d91:Extend",
  "11d93-11d97:Extend 11d98:OLetter 11da0-11da9:Numeric 11ee0-11ef2:OLetter",
  "11ef3-11ef6:Extend 11ef7-11ef8:STerm 11f00-11f01:Extend 11f02:OLetter 11f03:Extend",
  "11f04-11f10:OLetter 11f12-11f33:OLetter 11f34-11f3a:Extend 11f3e-11f42:Extend",
  "11f43-11f44:STerm 11f50-11f59:Numeric 11f5a:Extend 11fb0:OLetter 12000-12399:OLetter",
  "12400-1246e:OLetter 12480-12543:OLetter 12f90-12ff0:OLetter 13000-1342f:OLetter",
  "13430-1343f:Format 13440:Extend 13441-13446:OLetter 13447-13455:Extend",
  "13460-143fa:OLetter 14400-14646:OLetter 16100-1611d:OLetter 1611e-1612f:Extend",
  "16130-16139:Numeric 16800-16a38:OLetter 16a40-16a5e:OLetter 16a60-16a69:Numeric",
  "16a6e-16a6f:STerm 16a70-16abe:OLetter 16ac0-16ac9:Numeric 16ad0-16aed:OLetter",
  "16af0-16af4:Extend 16af5:STerm 16b00-16b2f:OLetter 16b30-16b36:Extend 16b37-16b38:STerm",
  "16b40-16b43:OLetter 16b44:STerm 16b50-16b59:Numeric 16b63-16b77:OLetter",
  "16b7d-16b8f:OLetter 16d40-16d6c:OLetter 16d6e-16d6f:STerm 16d70-16d79:Numeric",
  "16e40-16e5f:Upper 16e60-16e7f:Lower 16e98:STerm 16f00-16f4a:OLetter 16f4f:Extend",
  "16f50:OLetter 16f51-16f87:Extend 16f8f-16f92:Extend 16f93-16f9f:OLetter",
  "16fe0-16fe1:OLetter 16fe3:OLetter 16fe4:Extend 16ff0-16ff1:Extend 17000-187f7:OLetter",
  "18800-18cd5:OLetter 18cff-18d08:OLetter 1aff0-1aff3:OLetter 1aff5-1affb:OLetter",
  "1affd-1affe:OLetter 1b000-1b122:OLetter 1b132:OLetter 1b150-1b152:OLetter 1b155:OLetter",
  "1b164-1b167:OLetter 1b170-1b2fb:OLetter 1bc00-1bc6a:OLetter 1bc70-1bc7c:OLetter",
  "1bc80-1bc88:OLetter 1bc90-1bc99:OLetter 1bc9d-1bc9e:Extend 1bc9f:STerm",
  "1bca0-1bca3:Format 1ccf0-1ccf9:Numeric 1cf00-1cf2d:Extend 1cf30-1cf46:Extend",
  "1d165-1d169:Extend 1d16d-1d172:Extend 1d173-1d17a:Format 1d17b-1d182:Extend",
  "1d185-1d18b:Extend 1d1aa-1d1ad:Extend 1d242-1d244:Extend 1d400-1d419:Upper",
  "1d41a-1d433:Lower 1d434-1d44d:Upper 1d44e-1d454:Lower 1d456-1d467:Lower",
  "1d468-1d481:Upper 1d482-1d49b:Lower 1d49c:Upper 1d49e-1d49f:Upper 1d4a2:Upper",
  "1d4a5-1d4a6:Upper 1d4a9-1d4ac:Upper 1d4ae-1d4b5:Upper 1d4b6-1d4b9:Lower 1d4bb:Lower",
  "1d4bd-1d4c3:Lower 1d4c5-1d4cf:Lower 1d4d0-1d4e9:Upper 1d4ea-1d503:Lower",
  "1d504-1d505:Upper 1d507-1d50a:Upper 1d50d-1d514:Upper 1d516-1d51c:Upper",
  "1d51e-1d537:Lower 1d538-1d539:Upper 1d53b-1d53e:Upper 1d540-1d544:Upper 1d546:Upper",
  "1d54a-1d550:Upper 1d552-1d56b:Lower 1d56c-1d585:Upper 1d586-1d59f:Lower",
  "1d5a0-1d5b9:Upper 1d5ba-1d5d3:Lower 1d5d4-1d5ed:Upper 1d5ee-1d607:Lower",
  "1d608-1d621:Upper 1d622-1d63b:Lower 1d63c-1d655:Upper 1d656-1d66f:Lower",
  "1d670-1d689:Upper 1d68a-1d6a5:Lower 1d6a8-1d6c0:Upper 1d6c2-1d6da:Lower",
  "1d6dc-1d6e1:Lower 1d6e2-1d6fa:Upper 1d6fc-1d714:Lower 1d716-1d71b:Lower",
  "1d71c-1d734:Upper 1d736-1d74e:Lower 1d750-1d755:Lower 1d756-1d76e:Upper",
  "1d770-1d788:Lower 1d78a-1d78f:Lower 1d790-1d7a8:Upper 1d7aa-1d7c2:Lower",
  "1d7c4-1d7c9:Lower 1d7ca:Upper 1d7cb:Lower 1d7ce-1d7ff:Numeric 1da00-1da36:Extend",
  "1da3b-1da6c:Extend 1da75:Extend 1da84:Extend 1da88:STerm 1da9b-1da9f:Extend",
  "1daa1-1daaf:Extend 1df00-1df09:Lower 1df0a:OLetter 1df0b-1df1e:Lower 1df25-1df2a:Lower",
  "1e000-1e006:Extend 1e008-1e018:Extend 1e01b-1e021:Extend 1e023-1e024:Extend",
  "1e026-1e02a:Extend 1e030-1e06d:Lower 1e08f:Extend 1e100-1e12c:OLetter 1e130-1e136:Extend",
  "1e137-1e13d:OLetter 1e140-1e149:Numeric 1e14e:OLetter 1e290-1e2ad:OLetter 1e2ae:Extend",
  "1e2c0-1e2eb:OLetter 1e2ec-1e2ef:Extend 1e2f0-1e2f9:Numeric 1e4d0-1e4eb:OLetter",
  "1e4ec-1e4ef:Extend 1e4f0-1e4f9:Numeric 1e5d0-1e5ed:OLetter 1e5ee-1e5ef:Extend",
  "1e5f0:OLetter 1e5f1-1e5fa:Numeric 1e5ff:STerm 1e7e0-1e7e6:OLetter 1e7e8-1e7eb:OLetter",
  "1e7ed-1e7ee:OLetter 1e7f0-1e7fe:OLetter 1e800-1e8c4:OLetter 1e8d0-1e8d6:Extend",
  "1e900-1e921:Upper 1e922-1e943:Lower 1e944-1e94a:Extend 1e94b:OLetter 1e950-1e959:Numeric",
  "1ee00-1ee03:OLetter 1ee05-1ee1f:OLetter 1ee21-1ee22:OLetter 1ee24:OLetter 1ee27:OLetter",
  "1ee29-1ee32:OLetter 1ee34-1ee37:OLetter 1ee39:OLetter 1ee3b:OLetter 1ee42:OLetter",
  "1ee47:OLetter 1ee49:OLetter 1ee4b:OLetter 1ee4d-1ee4f:OLetter 1ee51-1ee52:OLetter",
  "1ee54:OLetter 1ee57:OLetter 1ee59:OLetter 1ee5b:OLetter 1ee5d:OLetter 1ee5f:OLetter",
  "1ee61-1ee62:OLetter 1ee64:OLetter 1ee67-1ee6a:OLetter 1ee6c-1ee72:OLetter",
  "1ee74-1ee77:OLetter 1ee79-1ee7c:OLetter 1ee7e:OLetter 1ee80-1ee89:OLetter",
  "1ee8b-1ee9b:OLetter 1eea1-1eea3:OLetter 1eea5-1eea9:OLetter 1eeab-1eebb:OLetter",
  "1f130-1f149:Upper 1f150-1f169:Upper 1f170-1f189:Upper 1f676-1f678:Close",
  "1fbf0-1fbf9:Numeric 20000-2a6df:OLetter 2a700-2b739:OLetter 2b740-2b81d:OLetter",
  "2b820-2cea1:OLetter 2ceb0-2ebe0:OLetter 2ebf0-2ee5d:OLetter 2f800-2fa1d:OLetter",
  "30000-3134a:OLetter 31350-323af:OLetter e0001:Format e0020-e007f:Extend",
  "e0100-e01ef:Extend"]


end Data
end Unicode
end TestTransform
